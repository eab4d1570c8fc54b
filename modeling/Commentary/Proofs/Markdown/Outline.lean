import Commentary.Proofs.Markdown.Open
import Commentary.Proofs.Text.Blank
import Commentary.Proofs.Text.Split
import Mathlib.Data.List.Basic

/-!
This module contains the outline of a page whose lines are all blank, inert or bullets. Between such
lines only a few combinations of blocks can be open, and a heading is found exactly where a line holds
one by itself: no line underlines another, ends up inside a block of code or of HTML, or takes a heading
into a paragraph.
-/

namespace Commentary

namespace Markdown

variable {b : UInt8} {c : Cursor} {blocks : List Block} {headings : List Heading} {line : Text}
variable {outcome : Outcome}

/--
Lines that leave the reader in a settled state.
-/
inductive Ordinary : Text → Prop
  | blank : Ordinary [Text.lf]
  | inert {b : UInt8} (h : isInert b = true) (t : Text) : Ordinary (b :: t)
  | item {b : UInt8} (h : isInert b = true) (hmark : b ≠ '#'.toUInt8) (t : Text) :
      Ordinary (bulletLine (b :: t))

inductive Settled : List Block → Prop
  | nothing : Settled []
  | line : Settled [.line]
  | paragraph (ls : List Text) : Settled [.paragraph ls]
  | item : Settled [bulletList, .item]
  | itemParagraph (ls : List Text) : Settled [bulletList, .item, .paragraph ls]

theorem reopen_of_underline? (h : underline? c.view = none) (around old : List Block) :
    reopen around old c = openBlocks around old c := by
  unfold reopen
  rw [h]
  split
  . contradiction
  . rfl

theorem continuesList_of_isInert (h : isInert b = true) (t : Text) :
    continuesList '-'.toUInt8 false 2 false false { rest := b :: t } = false := by
  unfold continuesList
  dsimp only
  rw [Cursor.view_mk, allSpace_cons (isSpace_of_isInert h), indentation_cons h, ofLine?_of_isInert h]
  rfl

theorem continuesList_bulletLine (h : isInert b = true) (t : Text) :
    continuesList '-'.toUInt8 false 2 false false { rest := bulletLine (b :: t) } = true := by
  have hspace : allSpace (bulletLine (b :: t)) = false := allSpace_cons (by decide) _
  have hwidth (column : Nat) : indentation column (bulletLine (b :: t)) = (0, 0) := rfl
  have hbreak : isBreak 0 ((bulletLine (b :: t)).drop ((bulletStart (b :: t)).length - 1)) = false :=
    isBreak_bulletLine h t
  unfold continuesList
  dsimp only
  rw [Cursor.view_mk, hspace, hwidth, ofLine?_bulletLine, if_neg Bool.false_ne_true,
    if_pos (by decide), if_pos (by decide)]
  dsimp only
  rw [hbreak]
  rfl

def readLine (blocks : List Block) (line : Text) : Outcome × Bool :=
  match blocks with
  | [] => (openBlocks [] [] { rest := line }, false)
  | blocks => continueBlocks false [] { rest := line } blocks

theorem step_of_readLine (h : readLine blocks line = (outcome, false)) :
    State.step { blocks, headings } line =
      { blocks := fillItems outcome.blocks, headings := headings ++ outcome.headings } := by
  have hstep : State.step { blocks, headings } line =
      { blocks := fillItems (readLine blocks line).1.blocks
        blankAfterEmpty := (readLine blocks line).2 && !(readLine blocks line).1.itemOpened
        headings := headings ++ (readLine blocks line).1.headings } := by
    cases blocks <;> rfl
  rw [hstep, h]
  rfl

theorem readLine_of_isInert (hblocks : Settled blocks) (h : isInert b = true) (t : Text) :
    readLine blocks (b :: t) = (openBlocks [] blocks { rest := b :: t }, false) := by
  have hreopen : reopen [] blocks { rest := b :: t } = openBlocks [] blocks { rest := b :: t } :=
    reopen_of_underline? (c := { rest := b :: t }) (underline?_of_isInert h t) [] blocks
  have hlist : continueBlock none false { rest := b :: t } bulletList = .ends { rest := b :: t } := by
    unfold continueBlock bulletList
    dsimp only
    rw [continuesList_of_isInert h]
    rfl
  have hends (old : List Block) : continueBlocks false [] { rest := b :: t } (bulletList :: old) =
      (reopen [] (bulletList :: old) { rest := b :: t }, false) := by
    unfold continueBlocks
    rw [List.getLast?_nil, hlist]
  cases hblocks with
  | nothing => rfl
  | line => exact congrArg (·, false) hreopen
  | paragraph ls => exact congrArg (·, false) hreopen
  | item => exact (hends _).trans (congrArg (·, false) hreopen)
  | itemParagraph ls => exact (hends _).trans (congrArg (·, false) hreopen)

theorem readLine_bulletLine (hblocks : Settled blocks) (h : isInert b = true)
    (hmark : b ≠ '#'.toUInt8) (t : Text) :
    readLine blocks (bulletLine (b :: t)) =
      ({ blocks := [.list '-'.toUInt8 false 2 true, .item, .paragraph [b :: t]]
         itemOpened := true }, false) := by
  have hreopen {around : List Block} (old : List Block)
      (haround : around = [] ∨ around = [bulletList]) :
      reopen around old { rest := bulletLine (b :: t) } =
        { blocks := [.list '-'.toUInt8 false 2 true, .item, .paragraph [b :: t]]
          itemOpened := true } := by
    rw [reopen_of_underline? (c := { rest := bulletLine (b :: t) }) (underline?_bulletLine h t),
      openBlocks_bulletLine h hmark haround]
  have hlist : continueBlock none false { rest := bulletLine (b :: t) } bulletList =
      .stays bulletList { rest := bulletLine (b :: t) } := by
    unfold continueBlock bulletList
    dsimp only
    rw [continuesList_bulletLine h]
    rfl
  -- the list stays open, but its last item does not
  have hstays (old : List Block) :
      continueBlocks false [] { rest := bulletLine (b :: t) } (bulletList :: .item :: old) =
        (reopen [bulletList] (.item :: old) { rest := bulletLine (b :: t) }, false) := by
    rw [continueBlocks, List.getLast?_nil, hlist]
    rfl
  cases hblocks with
  | nothing => exact congrArg (·, false) (openBlocks_bulletLine h hmark (.inl rfl) [] t)
  | line => exact congrArg (·, false) (hreopen _ (.inl rfl))
  | paragraph ls => exact congrArg (·, false) (hreopen _ (.inl rfl))
  | item => exact (hstays _).trans (congrArg (·, false) (hreopen _ (.inr rfl)))
  | itemParagraph ls => exact (hstays _).trans (congrArg (·, false) (hreopen _ (.inr rfl)))

theorem readLine_blank (hblocks : Settled blocks) :
    ∃ blocks', Settled blocks' ∧ readLine blocks [Text.lf] = ({ blocks := blocks' }, false) := by
  have hopen (around old : List Block) :
      openBlocks around old { rest := [Text.lf] } = { blocks := around } :=
    openBlocks_of_allSpace around old (by decide)
  have hreopen (around old : List Block) :
      reopen around old { rest := [Text.lf] } = { blocks := around } := by
    rw [reopen_of_underline? (by decide), hopen]
  cases hblocks with
  | nothing => exact ⟨[], .nothing, congrArg (·, false) (hopen [] [])⟩
  | line => exact ⟨[], .nothing, congrArg (·, false) (hreopen [] [.line])⟩
  | paragraph ls => exact ⟨[], .nothing, congrArg (·, false) (hreopen [] [.paragraph ls])⟩
  | item => exact ⟨_, .item, congrArg (·, false) (hopen [bulletList, .item] [])⟩
  | itemParagraph ls =>
    exact ⟨_, .item, congrArg (·, false) (hreopen [bulletList, .item] [.paragraph ls])⟩

theorem Settled.fillItems_eq (hblocks : Settled blocks) : fillItems blocks = blocks := by
  cases hblocks <;> rfl

theorem Settled.withText (hblocks : Settled blocks) (text : Text) :
    Settled (Markdown.withText [] blocks text) := by
  cases hblocks with
  | nothing => exact .paragraph [text]
  | line => exact .paragraph [text]
  | paragraph ls => exact .paragraph (ls ++ [text])
  | item => exact .paragraph [text]
  | itemParagraph ls => exact .itemParagraph (ls ++ [text])

theorem Settled.step (hblocks : Settled blocks) (hline : Ordinary line) (headings : List Heading) :
    ∃ blocks', Settled blocks' ∧
      State.step { blocks, headings } line =
        { blocks := blocks', headings := headings ++ (lineHeading? line).toList } := by
  cases hline with
  | blank =>
    obtain ⟨blocks', hblocks', hread⟩ := readLine_blank hblocks
    refine ⟨blocks', hblocks', ?_⟩
    rw [step_of_readLine hread, hblocks'.fillItems_eq]
    rfl
  | @inert b h t =>
    rw [step_of_readLine (readLine_of_isInert hblocks h t), openBlocks_of_isInert h]
    cases lineHeading? (b :: t) with
    | some heading => exact ⟨[.line], .line, rfl⟩
    | none =>
      have htext := hblocks.withText (b :: t)
      exact ⟨_, htext, by rw [htext.fillItems_eq]; rfl⟩
  | @item b h hmark t =>
    have hheading : lineHeading? (bulletLine (b :: t)) = none := lineHeading?_of_ne (by decide) _
    refine ⟨_, .itemParagraph [b :: t], ?_⟩
    rw [step_of_readLine (readLine_bulletLine hblocks h hmark t), hheading]
    rfl

theorem Settled.foldl_step {ls : List Text} (hblocks : Settled blocks)
    (hlines : ∀ line ∈ ls, Ordinary line) (headings : List Heading) :
    ∃ blocks', Settled blocks' ∧
      ls.foldl State.step { blocks, headings } =
        { blocks := blocks', headings := headings ++ ls.filterMap lineHeading? } := by
  induction ls generalizing blocks headings with
  | nil => exact ⟨blocks, hblocks, by rw [List.filterMap_nil, List.append_nil]; rfl⟩
  | cons line ls ih =>
    rw [List.forall_mem_cons] at hlines
    obtain ⟨next, hnext, hstep⟩ := hblocks.step hlines.1 headings
    obtain ⟨final, hfinal, hrun⟩ := ih hnext hlines.2 (headings ++ (lineHeading? line).toList)
    refine ⟨final, hfinal, ?_⟩
    rw [List.foldl_cons, hstep, hrun, List.append_assoc, List.filterMap_eq_flatMap_toList,
      List.filterMap_eq_flatMap_toList, List.flatMap_cons]

theorem outline_of_ordinary {page : Text} (h : ∀ line ∈ lines page, Ordinary line) :
    outline page = (lines page).filterMap lineHeading? := by
  obtain ⟨blocks, -, hrun⟩ := Settled.nothing.foldl_step h []
  unfold outline
  rw [hrun, List.nil_append]

theorem lines_append_lf (h : Text.lf ∉ line) (t : Text) :
    lines (line ++ Text.lf :: t) = (line ++ [Text.lf]) :: lines t := by
  induction line with
  | nil => rfl
  | cons b line ih =>
    rw [List.mem_cons, not_or] at h
    rw [List.cons_append, lines, if_neg (Ne.symm h.1), ih h.2]
    rfl

theorem lines_flatMap_lf {ls : List Text} (h : ∀ line ∈ ls, Text.lf ∉ line) :
    lines (ls.flatMap (· ++ [Text.lf])) = ls.map (· ++ [Text.lf]) := by
  induction ls with
  | nil => rfl
  | cons line ls ih =>
    rw [List.forall_mem_cons] at h
    rw [List.flatMap_cons, List.append_assoc, List.singleton_append, lines_append_lf h.1, ih h.2,
      List.map_cons]

def isTitleEnd (b : UInt8) : Bool :=
  Text.isVisible b && b ≠ '#'.toUInt8

theorem isSpace_of_isTitleEnd (h : isTitleEnd b = true) : isSpace b = false := by
  unfold isTitleEnd Text.isVisible at h
  unfold isSpace
  simp only [Bool.and_eq_true, decide_eq_true_eq, UInt8.lt_iff_toNat_lt, UInt8.reduceToNat] at h
  simp only [Bool.or_eq_false_iff, Bool.and_eq_false_iff, decide_eq_false_iff_not,
    UInt8.le_iff_toNat_le, ← UInt8.toNat_inj, UInt8.reduceToNat]
  omega

theorem isTitleEnd_of_isLetter (h : Html.isLetter b = true) : isTitleEnd b = true := by
  have hb := isLetter_toNat h
  unfold isTitleEnd Text.isVisible
  simp only [Bool.and_eq_true, decide_eq_true_eq, UInt8.lt_iff_toNat_lt, ne_eq, ← UInt8.toNat_inj]
  change (32 < b.toNat ∧ b.toNat < 127) ∧ b.toNat ≠ 35
  omega

def headingLine (level : Nat) (text : Text) : Text :=
  List.replicate level '#'.toUInt8 ++ ' '.toUInt8 :: text

theorem headingLine_append (level : Nat) (text rest : Text) :
    headingLine level text ++ rest = headingLine level (text ++ rest) := by
  unfold headingLine
  rw [List.append_assoc, List.cons_append]

theorem ordinary_headingLine {level : Nat} (hlow : 0 < level) (text : Text) :
    Ordinary (headingLine level text) := by
  cases level with
  | zero => cases hlow
  | succ level => exact Ordinary.inert (b := '#'.toUInt8) (by decide) (headingLine level text)

theorem span_headingLine (level : Nat) (text : Text) :
    (headingLine level text).span (· = '#'.toUInt8) =
      (List.replicate level '#'.toUInt8, ' '.toUInt8 :: text) := by
  have hmarks : ∀ b ∈ List.replicate level '#'.toUInt8, decide (b = '#'.toUInt8) = true := by
    simp
  unfold headingLine
  rw [List.span_eq_takeWhile_dropWhile, List.takeWhile_append_of_pos hmarks,
    List.dropWhile_append_of_pos hmarks, List.takeWhile_cons_of_neg (by decide),
    List.dropWhile_cons_of_neg (by decide), List.append_nil]

theorem lineHeading?_headingLine {level : Nat} {title : Text} (hlow : 0 < level) (hhigh : level ≤ 6)
    (hfirst : ∀ b, title.head? = some b → isTitleEnd b = true)
    (hlast : ∀ b, title.getLast? = some b → isTitleEnd b = true) :
    lineHeading? (headingLine level (title ++ [Text.lf])) = some ⟨level, title⟩ := by
  have hspaces : Text.dropEndWhile isSpace ((title ++ [Text.lf]).dropWhile isSpace) = title := by
    cases title with
    | nil => rfl
    | cons b t =>
      have hb : isSpace b = false := isSpace_of_isTitleEnd (hfirst b rfl)
      rw [List.cons_append, List.dropWhile_cons_of_neg (by simp [hb]), ← List.cons_append,
        Text.dropEndWhile_append_pos (by decide)]
      exact Text.dropEndWhile_eq_self fun b hb => isSpace_of_isTitleEnd (hlast b hb)
  have hmarks : Text.dropEndWhile (· = '#'.toUInt8) title = title := by
    apply Text.dropEndWhile_eq_self
    intro b hb
    have hend := hlast b hb
    unfold isTitleEnd at hend
    simpa using (Bool.and_eq_true_iff.mp hend).2
  have htrim : Text.trim title = title := by
    apply Text.trim_eq_self
    . rw [Option.all_eq_true]
      exact fun b hb => (Bool.and_eq_true_iff.mp (hfirst b hb)).1
    . rw [Option.all_eq_true]
      exact fun b hb => (Bool.and_eq_true_iff.mp (hlast b hb)).1
  have hlevel : ¬ (List.replicate level '#'.toUInt8 = [] ∨ 6 < level) := by
    rw [List.replicate_eq_nil_iff]
    omega
  unfold lineHeading?
  rw [span_headingLine]
  dsimp only
  rw [List.length_replicate, if_neg (by simpa using hlevel), if_pos (by decide),
    List.dropWhile_cons_of_pos (by decide), hspaces, hmarks, ite_self, htrim]

theorem countHeadings_append (hs hs' : List Heading) (level : Int) :
    countHeadings (hs ++ hs') level = countHeadings hs level + countHeadings hs' level := by
  unfold countHeadings
  rw [List.filter_append, List.length_append]

theorem countHeadings_map {f : α → Heading} {level : Nat} (hf : ∀ a, (f a).level = level)
    (as : List α) (wanted : Int) :
    countHeadings (as.map f) wanted = if (level : Int) = wanted then as.length else 0 := by
  unfold countHeadings
  rw [List.filter_map, List.length_map]
  split
  . next heq => rw [List.filter_eq_self.mpr (by simp [hf, heq])]
  . next hne => rw [List.filter_eq_nil_iff.mpr (by simp [hf, hne]), List.length_nil]

end Markdown

end Commentary
