import Commentary.Proofs.Source.Access
import Commentary.Source.Classify

/-!
This module contains the rules by which a line gets its token in each of the modes, one for each kind of
token.
-/

namespace Commentary

namespace Source

variable {v : Vocabulary} {line : Text} {token : Token}

inductive EnumRule (v : Vocabulary) (line : Text) : Token → Prop where
  | scopeStart (h : line.startsWith (scopeOpener v) = true) : EnumRule v line .scopeStart
  | scopeEnd (h : line = Text.ofString "\x7d") : EnumRule v line .scopeEnd
  | heading {title : Text} (h : Text.after? "/// ### " line = some title) :
      EnumRule v line (.heading (unframe title) none)
  | doc (h : line.startsWith "/// " = true) :
      EnumRule v line
        (.doc (Text.trim (line.dropWhile fun b => b = '/'.toUInt8 || b = ' '.toUInt8)))
  | blank (h : line = [] ∨ line = Text.ofString "///") : EnumRule v line .blank
  | declaration (h : line.endsWith "," = true) : EnumRule v line (.declaration (variantName line))
  | plain : EnumRule v line (.plain line)

theorem enumRule_classifyEnum (v : Vocabulary) (line : Text) :
    EnumRule v (Text.trim line) (classifyEnum v line) := by
  unfold classifyEnum
  dsimp only
  split
  . next hstart => exact .scopeStart hstart
  split
  . next hend => exact .scopeEnd hend
  split
  . next htitle => exact .heading htitle
  split
  . next hdoc => exact .doc hdoc
  split
  . next hblank => exact .blank hblank
  split
  . next hcomma => exact .declaration hcomma
  . exact .plain

inductive StatementRule (v : Vocabulary) (line : Text) : Token → Prop where
  | doc (h : line.startsWith "-- " = true) : StatementRule v line (.doc (commentText line))
  | blank (h : line = Text.ofString "--") : StatementRule v line .blank
  | declaration {word : Text} (h : line.startsWith v.filled.namespaceStart = true)
      (hword : Text.firstWord? line = some word) :
      StatementRule v line (.declaration word)
  | empty (h : Text.isBlank line = true) : StatementRule v line .empty
  | plain : StatementRule v line (.plain line)

theorem statementRule_of_classifyStatement (h : classifyStatement v line = some token) :
    StatementRule v line token := by
  unfold classifyStatement at h
  split at h
  . next hdoc =>
    cases h
    exact .doc hdoc
  split at h
  . next hblank =>
    cases h
    exact .blank hblank
  split at h
  . next hstart =>
    obtain ⟨word, hword, rfl⟩ := Option.map_eq_some_iff.mp h
    exact .declaration hstart hword
  split at h
  . next hempty =>
    cases h
    exact .empty hempty
  . cases h
    exact .plain

theorem commentText_of_framed (hstart : line.startsWith "-- #" = true) (hend : line.endsWith "--" = true) :
    commentText line = [Text.lf] ++ unframe (line.drop 3) ++ [Text.lf] := by
  unfold commentText
  rw [hstart, hend]
  rfl

theorem commentText_of_not_framed
    (h : ¬ (line.startsWith "-- #" = true ∧ line.endsWith "--" = true)) :
    commentText line = line.drop 3 := by
  rw [← Bool.and_eq_true] at h
  unfold commentText
  rw [if_neg h]

theorem startsWith_of_mem_targetHeadings {entry : Text × Target} (hentry : entry ∈ targetHeadings)
    (h : line.startsWith entry.1 = true) : line.startsWith "-- #" = true := by
  have hmark : ∀ entry ∈ targetHeadings, entry.1.startsWith "-- #" = true := by
    decide +kernel
  rw [Text.startsWith, List.isPrefixOf_iff_prefix] at h ⊢
  exact (List.isPrefixOf_iff_prefix.mp (hmark entry hentry)).trans h

theorem startsWith_comment_of_mark (h : line.startsWith "-- #" = true) : line.startsWith "-- " = true := by
  obtain ⟨rest, rfl⟩ := Text.startsWith_iff.mp h
  rfl

theorem classifyStatement_of_mark (v : Vocabulary) (h : line.startsWith "-- #" = true) :
    classifyStatement v line = some (.doc (commentText line)) := by
  obtain ⟨rest, rfl⟩ := Text.startsWith_iff.mp h
  rfl

theorem not_startsWith_separator (h : line.startsWith "-- #" = true) :
    ¬ line.startsWith "---" = true := by
  obtain ⟨rest, rfl⟩ := Text.startsWith_iff.mp h
  exact Bool.false_ne_true

theorem classifyConfigWith_of_mark (headings : List (Text × Target)) (v : Vocabulary)
    (h : line.startsWith "-- #" = true) :
    classifyConfigWith headings v line =
      some ((headings.find? fun entry => line.startsWith entry.1).elim (.doc (commentText line))
        fun entry => .heading (commentText line) entry.2) := by
  unfold classifyConfigWith
  rw [if_neg (not_startsWith_separator h), classifyStatement_of_mark v h, Option.map_some]
  cases headings.find? fun entry => line.startsWith entry.1 with
  | none => rfl
  | some entry => rfl

inductive ConfigRule (v : Vocabulary) (line : Text) : Token → Prop where
  | skip (h : line.startsWith "---" = true) : ConfigRule v line .skip
  | heading {entry : Text × Target} (hentry : entry ∈ targetHeadings)
      (h : line.startsWith entry.1 = true) : ConfigRule v line (.heading (commentText line) entry.2)
  | statement {token : Token} (h : StatementRule v line token) : ConfigRule v line token

theorem configRule_of_classifyConfig (h : classifyConfig v line = some token) : ConfigRule v line token := by
  unfold classifyConfig classifyConfigWith at h
  split at h
  . next hskip =>
    cases h
    exact .skip hskip
  obtain ⟨statement, hstatement, rfl⟩ := Option.map_eq_some_iff.mp h
  split
  . next start target hfind =>
    have hentry := List.mem_of_find?_eq_some hfind
    have hstart := List.find?_some hfind
    rw [classifyStatement_of_mark v (startsWith_of_mem_targetHeadings hentry hstart)] at hstatement
    cases hstatement
    exact .heading hentry hstart
  . exact .statement (statementRule_of_classifyStatement hstatement)

inductive FunctionRule (v : Vocabulary) (line : Text) : Token → Prop where
  | doc {text : Text} (h : Text.after? "///" line = some text) :
      FunctionRule v line (.doc (Text.dropSymbol text))
  | declaration {rest : Text} (h : Text.after? (v.filled.functionKeyword ++ " ") line = some rest) :
      FunctionRule v line (.declaration (functionName rest))
  | plain : FunctionRule v line (.plain line)

theorem functionRule_classifyFunction (v : Vocabulary) (line : Text) :
    FunctionRule v line (classifyFunction v line) := by
  unfold classifyFunction
  split
  . next hdoc => exact .doc hdoc
  split
  . next hdeclaration => exact .declaration hdeclaration
  . exact .plain

end Source

end Commentary
