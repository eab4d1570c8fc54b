import Commentary.Document.Basic
import Commentary.Markdown.Html
import Commentary.Markdown.LinkReference
import Commentary.Text.Blank

/-!
This module contains the block structure of markdown. The blocks that are open before a line, from
the outermost to the innermost, are all that the line's meaning depends on; reading the line yields
the blocks that are open after it and the headings found on the way.
-/

namespace Commentary

namespace Markdown

structure Heading where
  level : Nat
  text : Text
  deriving DecidableEq, Repr

inductive Block where
  | quote
  -- A list: the mark of its items, the column at which the content of the last item starts, and whether
  -- that item is still empty.
  | list (mark : UInt8) (ordered : Bool) (offset : Nat) (emptyItem : Bool)
  | item
  | paragraph (lines : List Text)
  | line
  | indentedCode
  | fencedCode (mark : UInt8) (length : Nat)
  -- An HTML block. `done` says that its first line already ended it.
  | html (stop : HtmlEnd) (done : Bool)
  deriving Repr

namespace Block

def isList : Block → Bool
  | .list .. => true
  | _ => false

end Block

def isBreak (column : Nat) (line : Text) : Bool :=
  let marks := line.filter fun b => !isSpace b
  match marks with
  | [] => false
  | mark :: _ =>
    (indentation column line).1 ≤ 3 &&
      (mark = '*'.toUInt8 || mark = '-'.toUInt8 || mark = '_'.toUInt8) &&
      marks.all (· = mark) && 3 ≤ marks.length

def underline? (line : Text) : Option Nat :=
  let (spaces, bar) := line.span (· = ' '.toUInt8)
  match bar with
  | [] => none
  | mark :: _ =>
    let level? :=
      if mark = '='.toUInt8 then some 1 else if mark = '-'.toUInt8 then some 2 else none
    if spaces.length ≤ 3 && allSpace (bar.dropWhile (· = mark)) then level? else none

def lineHeading? (line : Text) : Option Heading :=
  let (marks, rest) := line.span (· = '#'.toUInt8)
  if marks = [] || 6 < marks.length then
    none
  else
    match rest with
    | [] => some ⟨marks.length, []⟩
    | b :: _ =>
      if isSpace b then
        let text := Text.dropEndWhile isSpace (rest.dropWhile isSpace)
        let open? := Text.dropEndWhile (· = '#'.toUInt8) text
        let text := if open?.getLast?.all isSpace then open? else text
        some ⟨marks.length, Text.trim text⟩
      else
        none

def fence? (line : Text) : Option (UInt8 × Nat) :=
  match line with
  | [] => none
  | mark :: _ =>
    let (marks, info) := line.span (· = mark)
    if (mark = '\x60'.toUInt8 && !info.contains mark || mark = '~'.toUInt8) && 3 ≤ marks.length then
      some (mark, marks.length)
    else
      none

structure ItemStart where
  length : Nat
  mark : UInt8
  number : Option Nat
  content : Text

namespace ItemStart

def ordered (s : ItemStart) : Bool :=
  s.number.isSome

def isEmpty (s : ItemStart) : Bool :=
  allSpace s.content

def gap (s : ItemStart) : Nat :=
  let width := (indentation s.length s.content).1
  if s.isEmpty || 4 < width then 1 else width

def ofLine? (line : Text) : Option ItemStart :=
  let (spaces, rest) := line.span (· = ' '.toUInt8)
  let (digits, afterDigits) := rest.span Html.isDigit
  match rest, afterDigits with
  | b :: content, m :: orderedContent =>
    if 3 < spaces.length then
      none
    else if b = '-'.toUInt8 || b = '*'.toUInt8 || b = '+'.toUInt8 then
      check { length := spaces.length + 1, mark := b, number := none, content }
    else if 1 ≤ digits.length && digits.length ≤ 9 && (m = '.'.toUInt8 || m = ')'.toUInt8) then
      check
        { length := spaces.length + digits.length + 1
          mark := m
          number := some (digits.foldl (fun n d => n * 10 + (d.toNat - '0'.toNat)) 0)
          content := orderedContent }
    else
      none
  | _, _ => none
where
  check (s : ItemStart) : Option ItemStart :=
    match s.content with
    | [] => some s
    | b :: _ =>
      if b = ' '.toUInt8 || b = '\t'.toUInt8 || b = Text.lf then some s else none

end ItemStart

inductive Continuation where
  | stays (block : Block) (rest : Cursor)
  | ends (rest : Cursor)

def afterQuoteMark? (c : Cursor) : Option Cursor :=
  let (width, count) := indentation c.start c.view
  if 3 < width || (c.view.drop count).head? ≠ some '>'.toUInt8 then
    none
  else
    let c := c.advance (count + 1)
    match c.view with
    | b :: _ =>
      if b = ' '.toUInt8 then
        some (c.advanceInto 1 0)
      else if b = '\t'.toUInt8 then
        some (c.advanceInto 1 (tabWidth c.start - 1))
      else
        some c
    | [] => some c

def continuesList (mark : UInt8) (ordered : Bool) (offset : Nat) (emptyItem blankAfterEmpty : Bool)
    (c : Cursor) : Bool :=
  let line := c.view
  let indent := (indentation c.start line).1
  let start? := if indent < 4 then ItemStart.ofLine? line else none
  if allSpace line then
    true
  else if indent < offset || emptyItem then
    match start? with
    | some s =>
      s.mark = mark && s.ordered = ordered && !isBreak 0 (line.drop (s.length - 1))
    | none => emptyItem && offset ≤ indent && !blankAfterEmpty
  else
    !blankAfterEmpty

def continueItem (offset : Nat) (isEmpty : Bool) (c : Cursor) : Continuation :=
  let line := c.view
  let indent := (indentation c.start line).1
  if allSpace line then
    .stays .item c.toEnd
  else
    let outside := (isEmpty || indent < offset) && indent < 4
    if outside && (!isEmpty || (ItemStart.ofLine? line).isSome) then
      .ends c
    else
      match indentationEnd? c.start offset line with
      | some (count, padding) => .stays .item (c.advanceInto count padding)
      | none => .ends c

def continueBlock (parent : Option Block) (blankAfterEmpty : Bool) (c : Cursor) :
    Block → Continuation
  | .quote =>
    match afterQuoteMark? c with
    | some c => .stays .quote c
    | none => .ends c
  | .list mark ordered offset emptyItem =>
    if continuesList mark ordered offset emptyItem blankAfterEmpty c then
      .stays (.list mark ordered offset emptyItem) c
    else
      .ends c
  | .item =>
    match parent with
    | some (.list _ _ offset emptyItem) => continueItem offset emptyItem c
    | _ => .ends c
  | .paragraph _ | .line => .ends c
  | .indentedCode =>
    if allSpace c.view || (indentationEnd? c.start 4 c.view).isSome then
      .stays .indentedCode c.toEnd
    else
      .ends c
  | .fencedCode mark length =>
    let (width, count) := indentation c.start c.view
    let (marks, rest) := (c.view.drop count).span (· = mark)
    if width < 4 && length ≤ marks.length && allSpace rest then
      .ends c.toEnd
    else
      .stays (.fencedCode mark length) c.toEnd
  | .html stop done =>
    match stop with
    | .blankLine => if allSpace c.view then .ends c else .stays (.html stop false) c.toEnd
    | _ =>
      if done then
        .ends c
      else if Html.endsAt stop c.view then
        .ends c.toEnd
      else
        .stays (.html stop false) c.toEnd

structure Outcome where
  blocks : List Block
  headings : List Heading := []
  itemOpened : Bool := false

def withItem (s : ItemStart) : List Block → List Block
  | [] => []
  | [.list mark ordered _ _] => [.list mark ordered (s.length + s.gap) true, .item]
  | b :: bs => b :: withItem s bs

def ItemStart.contentOf (s : ItemStart) (c : Cursor) : Cursor :=
  match indentationEnd? s.length s.gap s.content with
  | some (count, padding) => c.advanceInto (s.length + count) padding
  | none => c

def lastParagraph? (blocks : List Block) : Option (List Text) :=
  match blocks.getLast? with
  | some (.paragraph lines) => some lines
  | _ => none

/--
Open the blocks that start in the rest of a line. It lies inside the blocks `around`. The blocks
`old` below these were open before; they end here, unless the line goes on with their paragraph. An
empty item, or one with another number than one, does not interrupt a paragraph.
-/
def openBlocks (around old : List Block) (c : Cursor) : Outcome :=
  let line := c.view
  let (width, count) := indentation c.start line
  let leaf (b : Block) : Outcome := { blocks := around ++ [b] }
  let fallback : Outcome :=
    if allSpace line then
      { blocks := around }
    else
      match lastParagraph? old with
      | some lines =>
        { blocks := around ++ old.dropLast ++ [.paragraph (lines ++ [c.rest.dropWhile isSpace])] }
      | none => leaf (.paragraph [c.rest.dropWhile isSpace])
  let inList := around.getLast?.any Block.isList
  let interrupts := old.length = 1 && (lastParagraph? old).isSome
  let item? := (ItemStart.ofLine? line).filter fun s =>
    inList || !(interrupts && (s.isEmpty || s.number.any (· ≠ 1)))
  if allSpace line then
    fallback
  else if 3 < width then
    if (lastParagraph? old).isSome then fallback else leaf .indentedCode
  else if isBreak c.start line then
    leaf .line
  else if let some s := item? then
    let blocks :=
      withItem s (if inList then around else around ++ [.list s.mark s.ordered 0 true])
    let rest := s.contentOf c
    if _h : !s.isEmpty ∧ rest.rest.length < c.rest.length then
      { openBlocks blocks [] rest with itemOpened := true }
    else
      { blocks, itemOpened := true }
  else if let some rest := afterQuoteMark? c then
    if _h : rest.rest.length < c.rest.length then
      openBlocks (around ++ [.quote]) [] rest
    else
      leaf .quote
  else
    -- With tabs in it, a line can be shorter than its indentation is wide.
    let text := if width < line.length then line.drop count else []
    if let some heading := lineHeading? text then
      { leaf .line with headings := [heading] }
    else if let some (mark, length) := fence? text then
      leaf (.fencedCode mark length)
    else if text = [] then
      fallback
    else
      match Html.start? (lastParagraph? old).isSome line with
      | some stop => leaf (.html stop (Html.endsAt stop line))
      | none => fallback
  termination_by c.rest.length
  decreasing_by
    · exact _h.2
    · exact _h

/--
Read the rest of a line at which the blocks `old` end. If it underlines their paragraph, that is a
heading; the link reference definitions at its start are not part of the heading, and a paragraph
made of nothing else cannot be one.
-/
def reopen (around old : List Block) (c : Cursor) : Outcome :=
  match old, underline? c.view with
  | [.paragraph lines], some level =>
    match LinkReference.strip (mapLast (Text.dropEndWhile isSpace) lines) with
    | [] => openBlocks around [] c
    | text => { blocks := around ++ [.line], headings := [⟨level, Text.trim text.flatten⟩] }
  | _, _ => openBlocks around old c

def Block.isContainer : Block → Bool
  | .quote | .list .. | .item => true
  | _ => false

def continueBlocks (blankAfterEmpty : Bool) (around : List Block) (c : Cursor) :
    List Block → Outcome × Bool
  | [] =>
    if around.getLast?.any Block.isContainer then
      (openBlocks around [] c, blankAfterEmpty)
    else
      ({ blocks := around }, blankAfterEmpty)
  | b :: old =>
    match continueBlock around.getLast? blankAfterEmpty c b with
    | .stays b rest =>
      let emptyItem := match b with
        | .list _ _ _ emptyItem => emptyItem
        | _ => false
      continueBlocks (blankAfterEmpty || emptyItem && allSpace c.view) (around ++ [b]) rest old
    | .ends rest => (reopen around (b :: old) rest, blankAfterEmpty)

def fillItems : List Block → List Block
  | .list mark ordered offset _ :: .item :: b :: bs =>
    .list mark ordered offset false :: .item :: fillItems (b :: bs)
  | b :: bs => b :: fillItems bs
  | [] => []

structure State where
  blocks : List Block := []
  -- Whether a blank line has followed an empty list item that is the last one.
  blankAfterEmpty : Bool := false
  headings : List Heading := []

def State.step (s : State) (line : Text) : State :=
  let c : Cursor := { rest := line }
  let (outcome, blank) := match s.blocks with
    | [] => (openBlocks [] [] c, s.blankAfterEmpty)
    | blocks => continueBlocks s.blankAfterEmpty [] c blocks
  { blocks := fillItems outcome.blocks
    blankAfterEmpty := blank && !outcome.itemOpened
    headings := s.headings ++ outcome.headings }

def outline (page : Text) : List Heading :=
  ((lines page).foldl State.step {}).headings

def countHeadings (headings : List Heading) (level : Int) : Nat :=
  (headings.filter fun h => (h.level : Int) = level).length

end Markdown

end Commentary
