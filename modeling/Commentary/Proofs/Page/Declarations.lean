import Commentary.Proofs.Page.Messages
import Commentary.Proofs.Source.Rules
import Commentary.Proofs.Text.Trim

/-!
This module contains what becomes of the declarations of an enumeration. Each of them closes a section and
gives it its name as a title, but the name is cut off before the first separator of the line. Where that
leaves nothing, the section looks as if no declaration had followed it, and is not on the page.
-/

namespace Commentary

namespace Source

variable {v : Vocabulary} {line name : Text}

def isSeparator (b : UInt8) : Bool :=
  b = ','.toUInt8 || b = '('.toUInt8 || b = '\x7b'.toUInt8

theorem variantName_eq_nil_iff {t : Text} (h : ¬ Text.StartsBlank t) :
    variantName t = [] ↔ t.takeWhile (fun b => !isSeparator b) = [] := by
  -- What stands before the first separator is not white space, since a line is trimmed before.
  change Text.trim (t.takeWhile fun b => !isSeparator b) = [] ↔ _
  rw [Text.trim_eq_nil_iff]
  constructor
  . intro hwhite
    by_contra hne
    obtain ⟨c, hc, hstart⟩ := hwhite.startsBlank hne
    exact h ⟨c, hc, hstart.trans (List.takeWhile_prefix _)⟩
  . intro hnil
    rw [hnil]
    exact Text.isWhiteSpace_nil

theorem eq_nil_iff_of_classifyEnum_eq_declaration (h : classifyEnum v line = .declaration name) :
    name = [] ↔ ∃ b rest, Text.trim line = b :: rest ∧ isSeparator b = true := by
  have hrule := enumRule_classifyEnum v line
  rw [h] at hrule
  cases hrule with
  | declaration hend =>
    rw [variantName_eq_nil_iff (Text.not_startsBlank_trim line)]
    cases hline : Text.trim line with
    | nil =>
      rw [hline] at hend
      cases hend
    | cons b rest =>
      cases hb : isSeparator b with
      | true => simp [hb]
      | false => simp [hb]

end Source

theorem Token.eq_declaration_of_kind {token : Token} (h : token.kind = .declaration) :
    token = .declaration token.text := by
  cases token with
  | declaration name => rfl
  | _ => cases h

theorem Token.mem_of_mem_cutAt {kind : Kind} {tokens stretch : List Token} {token : Token}
    (hstretch : stretch ∈ cutAt kind tokens) (htoken : token ∈ stretch) : token ∈ tokens := by
  induction tokens using List.reverseRecOn generalizing stretch with
  | nil =>
    rw [cutAt_nil, List.mem_singleton] at hstretch
    rw [hstretch] at htoken
    cases htoken
  | append_singleton tokens next ih =>
    rw [List.mem_append, List.mem_singleton]
    by_cases hnext : next.kind = kind
    . rw [cutAt_append_eq hnext, List.mem_append, List.mem_singleton] at hstretch
      rcases hstretch with hstretch | rfl
      . exact .inl (ih hstretch htoken)
      . cases htoken
    . obtain ⟨closed, last, hcut⟩ := exists_cutAt_eq_append kind tokens
      rw [hcut] at ih
      rw [cutAt_append_last hnext hcut, List.mem_append, List.mem_singleton] at hstretch
      rcases hstretch with hstretch | rfl
      . exact .inl (ih (List.mem_append_left _ hstretch) htoken)
      . rw [List.mem_append, List.mem_singleton] at htoken
        rcases htoken with htoken | rfl
        . exact .inl (ih (by simp) htoken)
        . exact .inr rfl

namespace Category

open Token

def closedSections (tokens : List Token) : List Section :=
  List.zipWith Section.mk (textsOf [.declaration] tokens)
    ((cutAt .declaration tokens).dropLast.map (textsOf [.doc, .blank]))

def remainder (tokens : List Token) : List Text :=
  textsOf [.doc, .blank] ((cutAt .declaration tokens).getLast cutAt_ne_nil)

def ofStretch (title : Text) (tokens : List Token) : Category where
  title := title
  sections := closedSections tokens ++ [{ body := remainder tokens }]

theorem ofTokens_eq_ofStretch (title : Text) (tokens : List Token) :
    ofTokens title tokens = ofStretch title tokens := by
  obtain ⟨closed, last, hcut⟩ := exists_cutAt_eq_append .declaration tokens
  change Category.mk title (ofTokens title tokens).sections = _
  rw [sections_ofTokens title hcut]
  unfold ofStretch closedSections remainder
  simp only [hcut, List.dropLast_concat, List.getLast_concat]

theorem map_title_closedSections (tokens : List Token) :
    (closedSections tokens).map Section.title = textsOf [.declaration] tokens := by
  apply map_zipWith_eq_left
  . intros
    rfl
  . simp [length_cutAt]

end Category

namespace Messages

open Token

def stretches (tokens : List Token) : List (Text × List Token) :=
  (textsOf [.heading] tokens).zip (cutAt .heading tokens).tail

theorem categories_extract_eq (v : Vocabulary) (lines : List Text) :
    (extract v lines).1.categories =
      (stretches (scope (lines.map (Source.classifyEnum v)))).map fun stretch =>
        Category.ofStretch stretch.1 stretch.2 := by
  obtain ⟨hfound, -⟩ := extractFrom_outside v lines
  rw [foldl_take_eq_ofTokens (kind_ne_empty_of_mem_scope v lines)] at hfound
  have hcategory : Category.ofTokens = Category.ofStretch := by
    funext title tokens
    exact Category.ofTokens_eq_ofStretch title tokens
  change (extractFrom v .outside lines).1.found.categories = _
  rw [hfound, ofTokens, hcategory, stretches, List.map_zip_eq_zipWith]
  rfl

theorem exists_line_of_mem_closedSections {v : Vocabulary} {lines : List Text}
    {stretch : Text × List Token} {s : Section}
    (hstretch : stretch ∈ stretches (scope (lines.map (Source.classifyEnum v))))
    (hs : s ∈ Category.closedSections stretch.2) :
    ∃ line ∈ lines, Source.classifyEnum v line = .declaration s.title := by
  have htitle : s.title ∈ textsOf [.declaration] stretch.2 := by
    rw [← Category.map_title_closedSections]
    exact List.mem_map_of_mem hs
  obtain ⟨token, htoken, htext⟩ := List.mem_map.mp htitle
  rw [List.mem_filter] at htoken
  have hcut := List.mem_of_mem_tail (List.of_mem_zip hstretch).2
  have hscope := mem_of_mem_scope (mem_of_mem_cutAt hcut htoken.1)
  obtain ⟨line, hline, rfl⟩ := List.mem_map.mp hscope
  refine ⟨line, hline, ?_⟩
  rw [← htext]
  apply eq_declaration_of_kind
  simpa using htoken.2

end Messages

namespace Page

open Messages (stretches scope)

theorem flatMap_filter (p : α → Bool) (f : α → List β) (as : List α) :
    (as.filter p).flatMap f = as.flatMap fun a => if p a then f a else [] := by
  induction as with
  | nil => rfl
  | cons a as ih =>
    rw [List.filter_cons, List.flatMap_cons, ← ih]
    split
    . rw [List.flatMap_cons]
    . rfl

theorem categoryLines_ofStretch (title : Text) (tokens : List Token) :
    categoryLines (Category.ofStretch title tokens) =
      [Text.ofString "### " ++ title, []]
        ++ (Category.closedSections tokens).flatMap fun s =>
          if s.titled then [Text.ofString "#### " ++ s.title, []] ++ s.body ++ [[]] else [] := by
  have htitled : (Category.ofStretch title tokens).titledSections =
      (Category.closedSections tokens).filter Section.titled := by
    unfold Category.titledSections Category.ofStretch
    rw [List.filter_append]
    simp [Section.titled]
  unfold categoryLines
  rw [htitled, flatMap_filter]
  rfl

/--
A section of a category is titled if and only if it was closed by a declaration with a name, that is, one
whose line does not begin with a separator; it is the last one that no declaration has closed. So every
declaration after the first heading has a sub-heading on the page, with its documentation below it and in
its place, unless its name is missing.
-/
theorem section_titled_iff_declaration_named (v : Vocabulary) (lines : List Text) :
    (Messages.extract v lines).1.categories =
        (stretches (scope (lines.map (Source.classifyEnum v)))).map (fun stretch =>
          Category.ofStretch stretch.1 stretch.2)
      ∧ (∀ tokens,
          (Category.closedSections tokens).map Section.title = Token.textsOf [.declaration] tokens)
      ∧ (∀ c ∈ (Messages.extract v lines).1.categories, ∃ closed last,
          c.sections = closed ++ [last]
            ∧ last.titled = false
            ∧ ∀ s ∈ closed, ∃ line ∈ lines,
                Source.classifyEnum v line = .declaration s.title
                  ∧ (s.titled = true
                    ↔ ¬ ∃ b rest, Text.trim line = b :: rest ∧ Source.isSeparator b = true))
      ∧ messages (Messages.extract v lines).1 =
          standardHeader
            ++ contents (Messages.extract v lines).1
            ++ Text.ofString "\n\n"
            ++ Text.join [Text.lf] ((stretches (scope (lines.map (Source.classifyEnum v)))).flatMap
              fun stretch =>
                [Text.ofString "### " ++ stretch.1, []]
                  ++ (Category.closedSections stretch.2).flatMap fun s =>
                    if s.titled then
                      [Text.ofString "#### " ++ s.title, []] ++ s.body ++ [[]]
                    else
                      [])
            ++ standardFooter
            ++ [Text.lf] := by
  have hcategories := Messages.categories_extract_eq v lines
  refine ⟨hcategories, Category.map_title_closedSections, ?_, ?_⟩
  . intro c hc
    rw [hcategories] at hc
    obtain ⟨stretch, hstretch, rfl⟩ := List.mem_map.mp hc
    refine ⟨_, _, rfl, rfl, ?_⟩
    intro s hs
    obtain ⟨line, hline, hdeclaration⟩ :=
      Messages.exists_line_of_mem_closedSections hstretch hs
    refine ⟨line, hline, hdeclaration, ?_⟩
    rw [← Source.eq_nil_iff_of_classifyEnum_eq_declaration hdeclaration]
    simp [Section.titled]
  . unfold messages messageBody
    rw [withFinalNewline_append, hcategories, List.flatMap_map]
    simp only [categoryLines_ofStretch]

def payloadBelowName : Text :=
  "pub enum ExternalMsg \x7b\n/// ### Modes\n/// Switch the mode.\nSwitchMode(\n(String, u8),\n),\n\x7d\n"

theorem exists_untitled_closed_section :
    Source.classifyEnum {} "(String, u8)," = .declaration []
      ∧ (Messages.extract {} payloadBelowName.lines).1.categories =
          [{ title := "Modes"
             sections := [{ title := [], body := ["Switch the mode."] }, { title := ")" }, {}] }]
      ∧ (¬ ∀ c ∈ (Messages.extract {} payloadBelowName.lines).1.categories,
          ∀ s ∈ c.sections.dropLast, s.titled = true)
      ∧ Text.contains (messages (Messages.extract {} payloadBelowName.lines).1) "Switch the mode." =
          false := by
  have hextract : (Messages.extract {} payloadBelowName.lines).1 =
      { categories :=
          [{ title := "Modes"
             sections := [{ title := [], body := ["Switch the mode."] }, { title := ")" }, {}] }] } := by
    decide +kernel
  rw [hextract]
  refine ⟨?_, rfl, ?_, ?_⟩
  all_goals decide +kernel

end Page

end Commentary
