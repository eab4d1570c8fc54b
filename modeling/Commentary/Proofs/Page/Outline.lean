import Commentary.Proofs.Markdown.Outline
import Commentary.Proofs.Page.Messages
import Commentary.Proofs.Text.Lines

/-!
This module contains the outline of the page of an enumeration. For a document whose texts are plain
words, the headings that a reader of markdown finds on the page are those that were written there: no
line of a section opens a block, joins a heading or hides the next one.
-/

namespace Commentary

namespace Text

/--
A text that consists of words, made of ASCII letters, with single spaces between them. The empty text
has no words.
-/
def IsWords (t : Text) : Prop :=
  ∃ words : List Text,
    (∀ word ∈ words, word ≠ [] ∧ ∀ b ∈ word, Markdown.Html.isLetter b = true)
      ∧ t = join [' '.toUInt8] words

variable {t : Text}

theorem isWords_iff :
    IsWords t ↔
      t = [] ∨ ∀ word ∈ split ' '.toUInt8 t, word ≠ [] ∧ word.all Markdown.Html.isLetter = true := by
  simp only [List.all_eq_true]
  constructor
  . rintro ⟨words, hwords, rfl⟩
    cases words with
    | nil => exact .inl rfl
    | cons word words =>
      right
      rw [split_join _ (by simp)]
      . exact hwords
      . intro word hword hspace
        exact absurd ((hwords word hword).2 _ hspace) (by decide)
  . rintro (rfl | hwords)
    . exact ⟨[], by simp, rfl⟩
    . exact ⟨_, hwords, (join_split _ t).symm⟩

instance : Decidable (IsWords t) :=
  decidable_of_iff _ isWords_iff.symm

namespace IsWords

theorem isLetter_of_head? (h : IsWords t) {b : UInt8} (hb : t.head? = some b) :
    Markdown.Html.isLetter b = true := by
  obtain ⟨words, hwords, rfl⟩ := h
  match words with
  | [] => cases hb
  | word :: words =>
    rw [List.forall_mem_cons] at hwords
    cases word with
    | nil => exact absurd rfl hwords.1.1
    | cons a word =>
      have hhead : (join [' '.toUInt8] ((a :: word) :: words)).head? = some a := by
        cases words <;> rfl
      rw [hhead] at hb
      exact hwords.1.2 b (by simp [Option.some.inj hb])

theorem isLetter_of_getLast? (h : IsWords t) {b : UInt8} (hb : t.getLast? = some b) :
    Markdown.Html.isLetter b = true := by
  obtain ⟨words, hwords, rfl⟩ := h
  cases words using List.reverseRecOn with
  | nil => cases hb
  | append_singleton words last =>
    have hlast := hwords last (by simp)
    rw [join_append_singleton, List.getLast?_append_of_ne_nil _ hlast.1] at hb
    exact hlast.2 b (List.mem_of_getLast? hb)

theorem le_toNat (h : IsWords t) {b : UInt8} (hb : b ∈ t) : 32 ≤ b.toNat := by
  obtain ⟨words, hwords, rfl⟩ := h
  have hletters : ∀ word ∈ words, ∀ b ∈ word, 32 ≤ b.toNat := by
    intro word hword b hb
    have hcode := Markdown.isLetter_toNat ((hwords word hword).2 b hb)
    omega
  cases words using List.reverseRecOn with
  | nil => simp [join] at hb
  | append_singleton words last =>
    simp only [List.forall_mem_append, List.forall_mem_singleton] at hletters
    rw [join_append_singleton] at hb
    simp only [List.mem_append, List.mem_flatMap, List.mem_singleton] at hb
    rcases hb with ⟨word, hword, hb | rfl⟩ | hb
    . exact hletters.1 word hword b hb
    . decide
    . exact hletters.2 b hb

theorem lf_not_mem (h : IsWords t) : lf ∉ t := by
  intro hlf
  exact absurd (h.le_toNat hlf) (by decide)

theorem isInert_of_head? (h : IsWords t) {b : UInt8} (hb : t.head? = some b) :
    Markdown.isInert b = true := by
  unfold Markdown.isInert
  rw [h.isLetter_of_head? hb]
  rfl

end IsWords

end Text

namespace Page

open Markdown (Heading Ordinary lineHeading? headingLine bulletLine outline countHeadings)

variable {m : Messages} {c : Category} {s : Section} {title : Text}

def pageLines (m : Messages) : List Text :=
  headerLines ++ orBlank (m.categories.map contentsLine) ++ [[]]
    ++ orBlank (m.categories.flatMap categoryLines) ++ [[]] ++ footerLines.dropLast

theorem split_messages_eq (h : m.AllTexts (Text.lf ∉ ·)) :
    Text.split Text.lf (messages m) = pageLines m ++ [[]] := by
  unfold pageLines
  rw [split_messages h, List.append_assoc _ footerLines.dropLast]
  rfl

theorem messages_eq (h : m.AllTexts (Text.lf ∉ ·)) :
    messages m = (pageLines m).flatMap (· ++ [Text.lf]) := by
  rw [← Text.join_split Text.lf (messages m), split_messages_eq h, Text.join_append_singleton,
    List.append_nil]

theorem lines_messages (h : m.AllTexts (Text.lf ∉ ·)) :
    Markdown.lines (messages m) = (pageLines m).map (· ++ [Text.lf]) := by
  have hpieces : ∀ line ∈ pageLines m, Text.lf ∉ line := by
    intro line hline
    apply Text.not_mem_of_mem_split (t := messages m)
    rw [split_messages_eq h]
    exact List.mem_append_left _ hline
  rw [messages_eq h, Markdown.lines_flatMap_lf hpieces]

def headingsOn (lines : List Text) : List Heading :=
  lines.filterMap fun line => lineHeading? (line ++ [Text.lf])

theorem headingsOn_append (ls ls' : List Text) :
    headingsOn (ls ++ ls') = headingsOn ls ++ headingsOn ls' := by
  apply List.filterMap_append

theorem headingsOn_orBlank (ls : List Text) : headingsOn (orBlank ls) = headingsOn ls := by
  unfold orBlank
  split
  . next hnil =>
    rw [hnil]
    rfl
  . rfl

theorem headingsOn_flatMap (f : α → List Text) (as : List α) :
    headingsOn (as.flatMap f) = as.flatMap fun a => headingsOn (f a) := by
  apply List.filterMap_flatMap

theorem headingsOn_eq_nil {ls : List Text} (h : ∀ line ∈ ls, line.head? ≠ some '#'.toUInt8) :
    headingsOn ls = [] := by
  apply List.filterMap_eq_nil_iff.mpr
  intro line hline
  cases line with
  | nil => rfl
  | cons b line =>
    apply Markdown.lineHeading?_of_ne
    rintro rfl
    exact h _ hline rfl

theorem headingsOn_headingLine {level : Nat} (h : title.IsWords) (hlow : 0 < level)
    (hhigh : level ≤ 6) (ls : List Text) :
    headingsOn (headingLine level title :: ls) = ⟨level, title⟩ :: headingsOn ls := by
  apply List.filterMap_cons_some
  rw [Markdown.headingLine_append]
  apply Markdown.lineHeading?_headingLine hlow hhigh
  . intro b hb
    exact Markdown.isTitleEnd_of_isLetter (h.isLetter_of_head? hb)
  . intro b hb
    exact Markdown.isTitleEnd_of_isLetter (h.isLetter_of_getLast? hb)

theorem sectionLines_eq (s : Section) :
    sectionLines s = headingLine 4 s.title :: ([[]] ++ s.body ++ [[]]) := by
  have hmark : Text.ofString "#### " = headingLine 4 [] := by
    decide
  unfold sectionLines
  rw [hmark, Markdown.headingLine_append]
  rfl

theorem categoryLines_eq (c : Category) :
    categoryLines c = headingLine 3 c.title :: ([[]] ++ c.titledSections.flatMap sectionLines) := by
  have hmark : Text.ofString "### " = headingLine 3 [] := by
    decide
  unfold categoryLines
  rw [hmark, Markdown.headingLine_append]
  rfl

theorem headingsOn_sectionLines (h : s.AllTexts Text.IsWords) :
    headingsOn (sectionLines s) = [⟨4, s.title⟩] := by
  rw [sectionLines_eq, headingsOn_headingLine h.1 (by decide) (by decide), headingsOn_eq_nil]
  simp only [List.forall_mem_append, List.forall_mem_singleton]
  refine ⟨⟨by simp, ?_⟩, by simp⟩
  intro line hline hmark
  exact absurd ((h.2 line hline).isLetter_of_head? hmark) (by decide)

theorem allTexts_of_mem_titledSections {p : Text → Prop} (h : c.AllTexts p)
    (hs : s ∈ c.titledSections) : s.AllTexts p :=
  h.2 s (List.mem_filter.mp hs).1

def categoryHeadings (c : Category) : List Heading :=
  ⟨3, c.title⟩ :: c.titledSections.map fun s => ⟨4, s.title⟩

theorem headingsOn_categoryLines (h : c.AllTexts Text.IsWords) :
    headingsOn (categoryLines c) = categoryHeadings c := by
  have hsections : c.titledSections.flatMap (fun s => headingsOn (sectionLines s)) =
      c.titledSections.flatMap fun s => [⟨4, s.title⟩] := by
    apply List.flatMap_congr
    intro s hs
    exact headingsOn_sectionLines (allTexts_of_mem_titledSections h hs)
  unfold categoryHeadings
  rw [categoryLines_eq, headingsOn_headingLine h.1 (by decide) (by decide), headingsOn_append,
    headingsOn_flatMap, hsections, List.map_eq_flatMap]
  rfl

theorem contentsLine_eq (c : Category) :
    contentsLine c = bulletLine ('['.toUInt8 :: (c.title ++ "](#" ++ slug c.title ++ ")")) := by
  have hmark : Text.ofString "- [" = bulletLine ['['.toUInt8] := by
    decide
  unfold contentsLine
  rw [hmark]
  simp [bulletLine]

theorem headingsOn_contents (cs : List Category) : headingsOn (cs.map contentsLine) = [] := by
  apply headingsOn_eq_nil
  rw [List.forall_mem_map]
  intro c _ hhead
  rw [contentsLine_eq] at hhead
  exact absurd (Option.some.inj hhead) (by decide)

theorem headingsOn_pageLines (h : m.AllTexts Text.IsWords) :
    headingsOn (pageLines m) =
      [⟨1, "Full List of Messages"⟩, ⟨2, "Categories"⟩]
        ++ m.categories.flatMap categoryHeadings ++ [⟨2, "Also See:"⟩] := by
  have hheader : headingsOn headerLines =
      [⟨1, "Full List of Messages"⟩, ⟨2, "Categories"⟩] := by
    decide +kernel
  have hfooter : headingsOn ([[]] ++ footerLines.dropLast) = [⟨2, "Also See:"⟩] := by
    decide +kernel
  have hcategories : m.categories.flatMap (fun c => headingsOn (categoryLines c)) =
      m.categories.flatMap categoryHeadings := by
    apply List.flatMap_congr
    intro c hc
    exact headingsOn_categoryLines (h c hc)
  unfold pageLines
  rw [List.append_assoc _ [[]] footerLines.dropLast, headingsOn_append, headingsOn_append,
    headingsOn_append, headingsOn_append, headingsOn_orBlank, headingsOn_orBlank, headingsOn_contents,
    headingsOn_flatMap, hheader, hfooter, hcategories]
  rfl

theorem ordinary_terminated {line : Text}
    (h : ∀ b, line.head? = some b → Markdown.isInert b = true) :
    Ordinary (line ++ [Text.lf]) := by
  cases line with
  | nil => exact .blank
  | cons b line => exact .inert (h b rfl) (line ++ [Text.lf])

theorem ordinary_terminated_headingLine {level : Nat} (hlow : 0 < level) (text : Text) :
    Ordinary (headingLine level text ++ [Text.lf]) := by
  rw [Markdown.headingLine_append]
  exact Markdown.ordinary_headingLine hlow _

theorem forall_mem_orBlank {ls : List Text} {P : Text → Prop} (hblank : P [])
    (h : ∀ line ∈ ls, P line) : ∀ line ∈ orBlank ls, P line := by
  unfold orBlank
  split
  . rw [List.forall_mem_singleton]
    exact hblank
  . exact h

theorem ordinary_sectionLines (h : s.AllTexts Text.IsWords) :
    ∀ line ∈ sectionLines s, Ordinary (line ++ [Text.lf]) := by
  rw [sectionLines_eq, List.forall_mem_cons]
  simp only [List.forall_mem_append, List.forall_mem_singleton]
  refine ⟨ordinary_terminated_headingLine (by decide) _, ⟨.blank, ?_⟩, .blank⟩
  intro line hline
  exact ordinary_terminated fun b hb => (h.2 line hline).isInert_of_head? hb

theorem ordinary_categoryLines (h : c.AllTexts Text.IsWords) :
    ∀ line ∈ categoryLines c, Ordinary (line ++ [Text.lf]) := by
  rw [categoryLines_eq, List.forall_mem_cons]
  simp only [List.forall_mem_append, List.forall_mem_singleton]
  refine ⟨ordinary_terminated_headingLine (by decide) _, .blank, ?_⟩
  intro line hline
  obtain ⟨s, hs, hline⟩ := List.mem_flatMap.mp hline
  exact ordinary_sectionLines (allTexts_of_mem_titledSections h hs) line hline

theorem ordinary_pageLines (h : m.AllTexts Text.IsWords) :
    ∀ line ∈ pageLines m, Ordinary (line ++ [Text.lf]) := by
  have hheader : ∀ line ∈ headerLines, line.head?.all Markdown.isInert = true := by
    decide +kernel
  have hfooter : footerLines.dropLast =
      [headingLine 2 "Also See:", [], bulletLine ('['.toUInt8 :: "Message][1]"), [],
       '['.toUInt8 :: "1]: message.md"] := by
    decide +kernel
  unfold pageLines
  simp only [List.forall_mem_append, List.forall_mem_singleton]
  refine ⟨⟨⟨⟨⟨?_, ?_⟩, .blank⟩, ?_⟩, .blank⟩, ?_⟩
  . intro line hline
    exact ordinary_terminated ((Option.all_eq_true _ _).mp (hheader line hline))
  . apply forall_mem_orBlank (P := fun line => Ordinary (line ++ [Text.lf])) .blank
    rw [List.forall_mem_map]
    intro c _
    rw [contentsLine_eq]
    exact .item (by decide) (by decide) _
  . apply forall_mem_orBlank (P := fun line => Ordinary (line ++ [Text.lf])) .blank
    intro line hline
    obtain ⟨c, hc, hline⟩ := List.mem_flatMap.mp hline
    exact ordinary_categoryLines (h c hc) line hline
  . rw [hfooter]
    simp only [List.forall_mem_cons]
    exact ⟨ordinary_terminated_headingLine (by decide) _, .blank,
      .item (b := '['.toUInt8) (by decide) (by decide) _, .blank,
      .inert (b := '['.toUInt8) (by decide) _, by simp⟩

theorem countHeadings_categoryHeadings (c : Category) :
    countHeadings (categoryHeadings c) 3 = 1
      ∧ countHeadings (categoryHeadings c) 4 = c.titledSections.length := by
  have hsections := Markdown.countHeadings_map (f := fun s : Section => ⟨4, s.title⟩) (fun _ => rfl)
    c.titledSections
  unfold categoryHeadings
  rw [← List.singleton_append, Markdown.countHeadings_append, Markdown.countHeadings_append,
    hsections, hsections]
  exact ⟨rfl, Nat.zero_add _⟩

theorem countHeadings_categories (cs : List Category) :
    countHeadings (cs.flatMap categoryHeadings) 3 = cs.length
      ∧ countHeadings (cs.flatMap categoryHeadings) 4 =
        (cs.flatMap Category.titledSections).length := by
  induction cs with
  | nil => exact ⟨rfl, rfl⟩
  | cons c cs ih =>
    have hfirst := countHeadings_categoryHeadings c
    rw [List.flatMap_cons, List.flatMap_cons, Markdown.countHeadings_append,
      Markdown.countHeadings_append, ih.1, ih.2, hfirst.1, hfirst.2, List.length_append,
      List.length_cons]
    exact ⟨Nat.add_comm _ _, rfl⟩

def Uncontrolled (t : Text) : Prop :=
  ∀ b ∈ t, 32 ≤ b.toNat

theorem uncontrolled_append {t u : Text} :
    Uncontrolled (t ++ u) ↔ Uncontrolled t ∧ Uncontrolled u := by
  unfold Uncontrolled
  rw [List.forall_mem_append]

theorem uncontrolled_slug (h : Uncontrolled title) : Uncontrolled (slug title) := by
  intro b hb
  obtain ⟨a, ha, rfl⟩ := List.mem_map.mp hb
  split
  . decide
  . by_contra hcontrol
    exact hcontrol (h a (Text.mem_of_mem_toLower ha (by omega)))

theorem uncontrolled_contentsLine (h : Uncontrolled c.title) : Uncontrolled (contentsLine c) := by
  have hmarks : [Text.ofString "- [", Text.ofString "](#", Text.ofString ")"].all
      (fun mark => mark.all fun b => 32 ≤ b.toNat) = true := by
    decide
  simp only [List.all_cons, List.all_nil, Bool.and_true, Bool.and_eq_true, List.all_eq_true,
    decide_eq_true_eq] at hmarks
  unfold contentsLine
  simp only [uncontrolled_append]
  exact ⟨⟨⟨⟨hmarks.1, h⟩, hmarks.2.1⟩, uncontrolled_slug h⟩, hmarks.2.2⟩

theorem uncontrolled_headingLine {level : Nat} (h : Uncontrolled title) :
    Uncontrolled (headingLine level title) := by
  have hmark : Uncontrolled (List.replicate level '#'.toUInt8) := by
    intro b hb
    rw [List.eq_of_mem_replicate hb]
    decide
  rw [headingLine, uncontrolled_append]
  refine ⟨hmark, ?_⟩
  rw [Uncontrolled, List.forall_mem_cons]
  exact ⟨by decide, h⟩

theorem uncontrolled_categoryLines (h : c.AllTexts Uncontrolled) :
    ∀ line ∈ categoryLines c, Uncontrolled line := by
  have hblank : Uncontrolled [] := by
    simp [Uncontrolled]
  rw [categoryLines_eq, List.forall_mem_cons]
  simp only [List.forall_mem_append, List.forall_mem_singleton, List.forall_mem_flatMap]
  refine ⟨uncontrolled_headingLine h.1, hblank, ?_⟩
  intro s hs
  have hsection := allTexts_of_mem_titledSections h hs
  rw [sectionLines_eq, List.forall_mem_cons]
  simp only [List.forall_mem_append, List.forall_mem_singleton]
  exact ⟨uncontrolled_headingLine hsection.1, ⟨hblank, hsection.2⟩, hblank⟩

theorem uncontrolled_pageLines (h : m.AllTexts Uncontrolled) :
    ∀ line ∈ pageLines m, Uncontrolled line := by
  have hblank : Uncontrolled [] := by
    simp [Uncontrolled]
  have hframe : (headerLines ++ footerLines.dropLast).all
      (fun line => line.all fun b => 32 ≤ b.toNat) = true := by
    decide +kernel
  simp only [List.all_append, Bool.and_eq_true, List.all_eq_true, decide_eq_true_eq] at hframe
  unfold pageLines
  simp only [List.forall_mem_append, List.forall_mem_singleton]
  refine ⟨⟨⟨⟨⟨hframe.1, ?_⟩, hblank⟩, ?_⟩, hblank⟩, hframe.2⟩
  . apply forall_mem_orBlank hblank
    rw [List.forall_mem_map]
    intro c hc
    exact uncontrolled_contentsLine (h c hc).1
  . apply forall_mem_orBlank hblank
    rw [List.forall_mem_flatMap]
    intro c hc
    exact uncontrolled_categoryLines (h c hc)

/--
A reader of headings goes by the rules for blocks on every page without control characters.
-/
def FollowsRules (reader : Text → List Heading) : Prop :=
  ∀ page : Text, (∀ b ∈ page, b = Text.lf ∨ 32 ≤ b.toNat) → reader page = outline page

theorem FollowsRules.reader_messages {reader : Text → List Heading} (hreader : FollowsRules reader)
    (h : m.AllTexts Text.IsWords) : reader (messages m) = outline (messages m) := by
  apply hreader
  rw [messages_eq (h.mono fun _ => Text.IsWords.lf_not_mem)]
  intro b hb
  obtain ⟨line, hline, hb⟩ := List.mem_flatMap.mp hb
  rcases List.mem_append.mp hb with hb | hb
  . exact .inr (uncontrolled_pageLines (h.mono fun _ ht _ => ht.le_toNat) line hline b hb)
  . exact .inl (List.mem_singleton.mp hb)

/--
The headings on the page of a document of plain words: one for each category and, below it, one for each
of its titled sections.
-/
theorem outline_messages (reader : Text → List Heading) (hreader : FollowsRules reader)
    (h : m.AllTexts Text.IsWords) :
    reader (messages m) =
        [⟨1, "Full List of Messages"⟩, ⟨2, "Categories"⟩]
          ++ m.categories.flatMap (fun c =>
            ⟨3, c.title⟩ :: c.titledSections.map fun s => ⟨4, s.title⟩)
          ++ [⟨2, "Also See:"⟩]
      ∧ countHeadings (reader (messages m)) 3 = m.categories.length
      ∧ countHeadings (reader (messages m)) 4 = m.titledCount := by
  have houtline : outline (messages m) = headingsOn (pageLines m) := by
    have hlines := lines_messages (h.mono fun _ => Text.IsWords.lf_not_mem)
    rw [Markdown.outline_of_ordinary, hlines, List.filterMap_map]
    . rfl
    . rw [hlines, List.forall_mem_map]
      exact ordinary_pageLines h
  rw [hreader.reader_messages h, houtline, headingsOn_pageLines h]
  simp only [Markdown.countHeadings_append]
  refine ⟨rfl, ?_, ?_⟩
  . rw [(countHeadings_categories m.categories).1]
    exact Nat.zero_add _
  . rw [(countHeadings_categories m.categories).2]
    exact Nat.zero_add _

def exploringMessages : Messages where
  categories :=
    [{ title := "Explore PWD"
       sections :=
         [{ title := "ExplorePwd", body := ["Explore the directory", [], [], "Reads it again"] },
          { title := "ExplorePwdAsync", body := [] },
          { title := [], body := ["Words that are not on the page"] }] },
     { title := "Quit", sections := [] }]

theorem outline_exploringMessages :
    exploringMessages.AllTexts Text.IsWords
      ∧ FollowsRules outline
      ∧ outline (messages exploringMessages) =
        [⟨1, "Full List of Messages"⟩, ⟨2, "Categories"⟩, ⟨3, "Explore PWD"⟩, ⟨4, "ExplorePwd"⟩,
         ⟨4, "ExplorePwdAsync"⟩, ⟨3, "Quit"⟩, ⟨2, "Also See:"⟩]
      ∧ countHeadings (outline (messages exploringMessages)) 3 = 2
      ∧ countHeadings (outline (messages exploringMessages)) 4 = 2 := by
  have hwords : exploringMessages.AllTexts Text.IsWords := by
    unfold Messages.AllTexts Category.AllTexts Section.AllTexts
    decide +kernel
  have hrules : FollowsRules outline := fun _ _ => rfl
  obtain ⟨houtline, hcategories, hsections⟩ := outline_messages outline hrules hwords
  refine ⟨hwords, hrules, houtline.trans ?_, hcategories.trans ?_, hsections.trans ?_⟩
  . decide +kernel
  . decide
  . decide +kernel

end Page

end Commentary
