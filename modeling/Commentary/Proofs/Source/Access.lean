import Commentary.Proofs.Source.Excerpt
import Commentary.Proofs.Text.Blank
import Commentary.Proofs.Text.Symbol
import Mathlib.Data.List.TakeWhile

/-!
This module contains the classification of lines by positions: pieces of a line are taken from or up to
a position, which has to be one of the line, and the first word of a line has to be there. All positions
are, so the tokens are those of `Commentary.Source.Classify`, and the one thing that can be missing is the
first word of a configuration declaration.
-/

namespace Commentary

inductive AccessFault where
  | position
  | firstWord
  | entry
  | document
  deriving DecidableEq, Repr

def orFirstWord : Option α → Except AccessFault α
  | some a => .ok a
  | none => .error .firstWord

theorem map_eq_error_iff {x : Except AccessFault α} {f : α → β} {fault : AccessFault} :
    x.map f = .error fault ↔ x = .error fault := by
  cases x with
  | error e => rw [Except.map, Except.error.injEq, Except.error.injEq]
  | ok a => exact ⟨nofun, nofun⟩

theorem orFirstWord_eq_error_iff {o : Option α} {fault : AccessFault} :
    orFirstWord o = .error fault ↔ fault = .firstWord ∧ o = none := by
  cases o with
  | none => simp [orFirstWord, eq_comm]
  | some a => simp [orFirstWord]

namespace Text

variable {t : Text} {n : Nat}

def sliceFrom (t : Text) (n : Nat) : Except AccessFault Text :=
  if n ≤ t.length then .ok (t.drop n) else .error .position

def sliceTo (t : Text) (n : Nat) : Except AccessFault Text :=
  if n ≤ t.length then .ok (t.take n) else .error .position

def sliceBefore (p : UInt8 → Bool) (t : Text) : Except AccessFault Text :=
  match t.findIdx? p with
  | some n => sliceTo t n
  | none => .ok t

def firstWord (t : Text) : Except AccessFault Text :=
  orFirstWord (firstWord? t)

def symbolSize : Text → Nat
  | [] => 0
  | a :: t =>
    match leading? a t with
    | some (_, n) => n + 1
    | none => 1

theorem sliceFrom_append (start rest : Text) : sliceFrom (start ++ rest) start.length = .ok rest := by
  simp [sliceFrom]

theorem startsWith_iff {start : Text} : t.startsWith start = true ↔ ∃ rest, t = start ++ rest := by
  rw [startsWith, List.isPrefixOf_iff_prefix]
  exact exists_congr fun rest => eq_comm

theorem after?_append (start rest : Text) : after? start (start ++ rest) = some rest := by
  rw [after?_eq_some_iff]

theorem after?_eq_none {start : Text} (h : ¬ t.startsWith start = true) : after? start t = none := by
  cases hafter : after? start t with
  | none => rfl
  | some rest => exact absurd (startsWith_iff.mpr ⟨rest, after?_eq_some_iff.mp hafter⟩) h

theorem sliceBefore_eq_ok (p : UInt8 → Bool) (t : Text) :
    sliceBefore p t = .ok (t.takeWhile fun b => !p b) := by
  unfold sliceBefore
  split
  . next n h =>
    rw [List.findIdx?_eq_some_iff_findIdx_eq] at h
    rw [sliceTo, if_pos (Nat.le_of_lt h.1), List.takeWhile_eq_take_findIdx_not]
    simp only [Bool.not_not, h.2]
  . next h =>
    rw [List.findIdx?_eq_none_iff] at h
    rw [List.takeWhile_eq_self_iff.mpr]
    simpa using h

theorem lt_length_of_continuation? {x : Nat} (h : t[n]? >>= continuation? = some x) : n < t.length := by
  obtain ⟨b, hbyte, -⟩ := Option.bind_eq_some_iff.mp h
  exact (List.getElem?_eq_some_iff.mp hbyte).1

theorem le_length_of_leading? {a : UInt8} {c : Char} (h : leading? a t = some (c, n)) : n ≤ t.length := by
  unfold leading? at h
  split at h
  . cases h
    exact Nat.zero_le _
  split at h
  . cases h
  split at h
  . obtain ⟨x, hx, h⟩ := Option.bind_eq_some_iff.mp h
    cases h
    exact lt_length_of_continuation? hx
  split at h
  . obtain ⟨x, hx, h⟩ := Option.bind_eq_some_iff.mp h
    obtain ⟨y, hy, h⟩ := Option.bind_eq_some_iff.mp h
    dsimp only at h
    split at h
    . cases h
    . cases h
      exact lt_length_of_continuation? hy
  split at h
  . obtain ⟨x, hx, h⟩ := Option.bind_eq_some_iff.mp h
    obtain ⟨y, hy, h⟩ := Option.bind_eq_some_iff.mp h
    obtain ⟨z, hz, h⟩ := Option.bind_eq_some_iff.mp h
    dsimp only at h
    split at h
    . cases h
    . cases h
      exact lt_length_of_continuation? hz
  . cases h

theorem sliceFrom_symbolSize (t : Text) : sliceFrom t (symbolSize t) = .ok (dropSymbol t) := by
  cases t with
  | nil => rfl
  | cons a t =>
    rw [symbolSize, dropSymbol]
    cases h : leading? a t with
    | none => simp [sliceFrom]
    | some found =>
      have hle := Nat.succ_le_succ (le_length_of_leading? h)
      rw [sliceFrom, List.length_cons, if_pos hle, List.drop_succ_cons]

theorem IsWhiteSpace.not_startsWith {start : Text} (h : IsWhiteSpace t)
    (hstart : start.head? = some '-'.toUInt8) : ¬ t.startsWith start = true := by
  have hforms : blankChars.all (fun c => (String.utf8EncodeChar c).head?.any (· != '-'.toUInt8)) = true := by
    decide +kernel
  rw [startsWith_iff]
  rintro ⟨rest, rfl⟩
  obtain ⟨cs, hcs, heq⟩ := h
  have hhead := congrArg List.head? heq
  rw [List.head?_append, hstart] at hhead
  cases cs with
  | nil => cases hhead
  | cons c cs =>
    have hform := List.all_eq_true.mp hforms c (hcs c List.mem_cons_self)
    obtain ⟨b, hb, hne⟩ := (Option.any_eq_true _ _).mp hform
    rw [List.flatMap_cons, List.head?_append, hb] at hhead
    cases hhead
    cases hne

end Text

namespace Source

def endsVariant (b : UInt8) : Bool :=
  b = ','.toUInt8 || b = '('.toUInt8 || b = '{'.toUInt8

def endsFunction (b : UInt8) : Bool :=
  b = '('.toUInt8 || b = '<'.toUInt8

def readEnum (v : Vocabulary) (line : Text) : Except AccessFault Token :=
  let line := Text.trim line
  if line.startsWith (scopeOpener v) then
    .ok .scopeStart
  else if line = Text.ofString "\x7d" then
    .ok .scopeEnd
  else if let some title := Text.after? "/// ### " line then
    .ok (.heading (unframe title) none)
  else if line.startsWith "/// " then
    .ok (.doc (Text.trim (line.dropWhile fun b => b = '/'.toUInt8 || b = ' '.toUInt8)))
  else if line = [] ∨ line = Text.ofString "///" then
    .ok .blank
  else if line.endsWith "," then do
    let name ← Text.sliceBefore endsVariant line
    return .declaration (Text.trim name)
  else
    .ok (.plain line)

theorem readEnum_eq_ok (v : Vocabulary) (line : Text) : readEnum v line = .ok (classifyEnum v line) := by
  unfold readEnum classifyEnum
  generalize Text.trim line = line
  dsimp only
  split
  . rfl
  split
  . rfl
  cases Text.after? "/// ### " line with
  | some title => rfl
  | none =>
    dsimp only
    split
    . rfl
    split
    . rfl
    split
    . rw [Text.sliceBefore_eq_ok]
      rfl
    . rfl

def readStatement (v : Vocabulary) (line : Text) : Except AccessFault Token :=
  if line.startsWith "-- " then do
    let text ← Text.sliceFrom line (Text.ofString "-- ").length
    if line.startsWith "-- #" && line.endsWith "--" then
      return .doc ([Text.lf] ++ unframe text ++ [Text.lf])
    else
      return .doc text
  else if line = Text.ofString "--" then
    .ok .blank
  else if line.startsWith v.filled.namespaceStart then do
    return .declaration (← Text.firstWord line)
  else if Text.isBlank line then
    .ok .empty
  else
    .ok (.plain line)

def readConfig (v : Vocabulary) (line : Text) : Except AccessFault Token :=
  if line.startsWith "---" then
    .ok .skip
  else do
    let token ← readStatement v line
    match targetHeadings.find? fun (start, _) => line.startsWith start with
    | some (_, target) => return .heading token.text target
    | none => return token

theorem readStatement_eq (v : Vocabulary) (line : Text) :
    readStatement v line = orFirstWord (classifyStatement v line) := by
  unfold readStatement classifyStatement
  split
  . next h =>
    obtain ⟨rest, rfl⟩ := Text.startsWith_iff.mp h
    have hdrop : List.drop 3 (Text.ofString "-- " ++ rest) = rest := rfl
    rw [Text.sliceFrom_append, commentText, hdrop]
    split
    . rfl
    . rfl
  split
  . rfl
  split
  . unfold Text.firstWord
    cases Text.firstWord? line with
    | none => rfl
    | some word => rfl
  split
  . rfl
  . rfl

theorem readConfig_eq (v : Vocabulary) (line : Text) :
    readConfig v line = orFirstWord (classifyConfig v line) := by
  unfold readConfig classifyConfig classifyConfigWith
  rw [readStatement_eq]
  split
  . rfl
  . cases classifyStatement v line with
    | none => rfl
    | some token =>
      cases targetHeadings.find? fun (start, _) => line.startsWith start with
      | none => rfl
      | some found => rfl

def readFunctionName (rest : Text) : Except AccessFault Text :=
  match Text.firstWord? rest with
  | some word => Text.sliceBefore endsFunction word
  | none => .ok []

def readFunction (v : Vocabulary) (line : Text) : Except AccessFault Token :=
  if line.startsWith "///" then do
    let text ← Text.sliceFrom line (Text.ofString "///").length
    return .doc (← Text.sliceFrom text (Text.symbolSize text))
  else if line.startsWith (v.filled.functionKeyword ++ " ") then do
    let rest ← Text.sliceFrom line v.filled.functionKeyword.length
    return .declaration (← readFunctionName rest)
  else
    .ok (.plain line)

theorem readFunctionName_eq_ok (rest : Text) : readFunctionName rest = .ok (functionName rest) := by
  unfold readFunctionName functionName
  cases Text.firstWord? rest with
  | none => rfl
  | some word => apply Text.sliceBefore_eq_ok

theorem functionName_space (rest : Text) : functionName (" " ++ rest) = functionName rest := by
  unfold functionName
  rw [Text.firstWord?_space]

theorem readFunction_eq_ok (v : Vocabulary) (line : Text) :
    readFunction v line = .ok (classifyFunction v line) := by
  unfold readFunction classifyFunction
  split
  . next h =>
    obtain ⟨text, rfl⟩ := Text.startsWith_iff.mp h
    rw [Text.sliceFrom_append, Text.after?_append]
    dsimp only [bind, Except.bind]
    rw [Text.sliceFrom_symbolSize]
    rfl
  next h =>
  rw [Text.after?_eq_none h]
  split
  . next h =>
    obtain ⟨rest, rfl⟩ := Text.startsWith_iff.mp h
    rw [Text.after?_append, List.append_assoc, Text.sliceFrom_append]
    dsimp only [bind, Except.bind]
    rw [readFunctionName_eq_ok, functionName_space]
    rfl
  . next h =>
    rw [Text.after?_eq_none h]

def IsBlankDeclaration (v : Vocabulary) (line : Text) : Prop :=
  Text.IsWhiteSpace line ∧ Vocabulary.orElse v.namespaceStart "xplr." <+: line

theorem classifyConfig_eq_none_iff (v : Vocabulary) (line : Text) :
    classifyConfig v line = none ↔ IsBlankDeclaration v line := by
  unfold classifyConfig classifyConfigWith
  constructor
  . intro h
    split at h
    . cases h
    rw [Option.map_eq_none_iff] at h
    unfold classifyStatement at h
    split at h
    . cases h
    split at h
    . cases h
    split at h
    . next hstart =>
      rw [Option.map_eq_none_iff, Text.firstWord?_eq_none_iff] at h
      exact ⟨h, List.isPrefixOf_iff_prefix.mp hstart⟩
    split at h
    . cases h
    . cases h
  . rintro ⟨hwhite, hstart⟩
    have hword := Text.firstWord?_eq_none_iff.mpr hwhite
    have hstart : line.startsWith v.filled.namespaceStart = true := List.isPrefixOf_iff_prefix.mpr hstart
    have hdash : line ≠ Text.ofString "--" := by
      rintro rfl
      have hself : (Text.ofString "--").startsWith "--" = true := by decide
      exact hwhite.not_startsWith rfl hself
    -- the rules before that for declarations are for lines that begin with a dash
    rw [if_neg (hwhite.not_startsWith rfl), classifyStatement, if_neg (hwhite.not_startsWith rfl),
      if_neg hdash, if_pos hstart, hword]
    rfl

end Source

end Commentary
