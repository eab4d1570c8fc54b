import Commentary.Proofs.Source.Rules
import Commentary.Proofs.Text.Trim

/-!
This module contains the shapes of tokens: what the reader of a source can rely on about the kind, the text
and the target of every token, for any vocabulary and any bytes on a line.
-/

namespace Commentary

namespace Text

variable {s t word : Text}

def BlankFree (t : Text) : Prop :=
  ∀ c ∈ blankChars, ¬ String.utf8EncodeChar c <:+: t

theorem blankFree_nil : BlankFree [] := by
  intro c _ hpart
  exact String.utf8EncodeChar_ne_nil (List.infix_nil.mp hpart)

theorem BlankFree.of_isInfix (h : BlankFree t) (hs : s <:+: t) : BlankFree s := by
  intro c hc hpart
  exact h c hc (hpart.trans hs)

theorem blankFree_untilBlank (t : Text) : BlankFree (untilBlank t) := by
  fun_induction untilBlank t with
  | case1 => exact blankFree_nil
  | case2 a t hlead ih =>
    intro c hc hpart
    rcases List.infix_cons_iff.mp hpart with hstart | hinside
    . rw [leadingForm_eq_zero_iff prefixFree_blankForms] at hlead
      apply hlead (String.utf8EncodeChar c) (List.mem_map_of_mem hc)
      exact hstart.trans ((List.prefix_cons_inj a).mpr (untilBlank_isPrefix t))
    . exact ih c hc hinside
  | case3 => exact blankFree_nil

theorem ne_nil_and_blankFree_of_firstWord? (h : firstWord? t = some word) : word ≠ [] ∧ BlankFree word := by
  unfold firstWord? at h
  split at h
  . cases h
  . next a rest htrim =>
    cases h
    have hlead : leadingForm blankForms (a :: rest) = 0 := by
      rw [← htrim]
      exact leadingForm_dropForms prefixFree_blankForms t
    refine ⟨?_, blankFree_untilBlank _⟩
    rw [untilBlank, hlead]
    apply List.cons_ne_nil

theorem not_mem_takeWhile_not {p : UInt8 → Bool} {b : UInt8} (hb : p b = true) (t : Text) :
    b ∉ t.takeWhile fun b => !p b := by
  intro hmem
  have hstops := List.mem_takeWhile_imp hmem
  rw [hb] at hstops
  cases hstops

end Text

namespace Source

variable {v : Vocabulary} {mode : Option Mode} {line : Text} {token : Token}

structure EnumShape (token : Token) : Prop where
  lf_not_mem : Text.lf ∉ token.text
  trimmed : token.kind = .heading ∨ token.kind = .doc ∨ token.kind = .declaration →
    ¬ Text.StartsBlank token.text ∧ ¬ Text.EndsBlank token.text
  name : token.kind = .declaration →
    ','.toUInt8 ∉ token.text ∧ '('.toUInt8 ∉ token.text ∧ '\x7b'.toUInt8 ∉ token.text
  target : token.target? = none
  kind : token.kind ≠ .skip ∧ token.kind ≠ .empty

def IsFramed (line : Text) (token : Token) : Prop :=
  (token.kind = .doc ∨ token.kind = .heading) ∧ line.startsWith "-- #" = true ∧ line.endsWith "--" = true

structure ConfigShape (line : Text) (token : Token) : Prop where
  framed : IsFramed line token → ∃ title, Text.lf ∉ title ∧ token.text = [Text.lf] ++ title ++ [Text.lf]
  lf_not_mem : ¬ IsFramed line token → Text.lf ∉ token.text
  name : token.kind = .declaration → token.text ≠ [] ∧ Text.BlankFree token.text
  target : token.target? ≠ none ↔ token.kind = .heading
  kind : token.kind ≠ .scopeStart ∧ token.kind ≠ .scopeEnd

structure FunctionShape (token : Token) : Prop where
  lf_not_mem : Text.lf ∉ token.text
  name : token.kind = .declaration →
    Text.BlankFree token.text ∧ '('.toUInt8 ∉ token.text ∧ '<'.toUInt8 ∉ token.text
  target : token.target? = none
  kind : token.kind = .plain ∨ token.kind = .doc ∨ token.kind = .declaration

def HasShape : Option Mode → Text → Token → Prop
  | some .enumeration, _, token => EnumShape token
  | some .configuration, line, token => ConfigShape line token
  | some .function, _, token => FunctionShape token
  | none, line, token => token = .plain line

theorem not_mem_variantName {b : UInt8} (hb : endsVariant b = true) (line : Text) :
    b ∉ variantName line := by
  intro hmem
  exact Text.not_mem_takeWhile_not hb line ((Text.trim_isInfix _).subset hmem)

theorem not_mem_functionName {b : UInt8} (hb : endsFunction b = true) (rest : Text) :
    b ∉ functionName rest := by
  exact Text.not_mem_takeWhile_not hb ((Text.firstWord? rest).getD [])

theorem blankFree_functionName (rest : Text) : Text.BlankFree (functionName rest) := by
  unfold functionName
  cases hword : Text.firstWord? rest with
  | none => exact Text.blankFree_nil
  | some word =>
    apply (Text.ne_nil_and_blankFree_of_firstWord? hword).2.of_isInfix
    apply List.IsPrefix.isInfix
    apply List.takeWhile_prefix

theorem enumShape_classifyEnum (v : Vocabulary) (hlf : Text.lf ∉ line) :
    EnumShape (classifyEnum v line) := by
  have htext : Text.lf ∉ (classifyEnum v line).text := by
    intro hmem
    exact hlf ((text_classifyEnum_isInfix v line).subset hmem)
  have htrimmed : ∀ t : Text, ¬ Text.StartsBlank (Text.trim t) ∧ ¬ Text.EndsBlank (Text.trim t) := by
    intro t
    exact ⟨Text.not_startsBlank_trim t, Text.not_endsBlank_trim t⟩
  have hrule := enumRule_classifyEnum v line
  generalize classifyEnum v line = token at htext hrule
  cases hrule with
  | scopeStart | scopeEnd | blank | plain =>
    refine ⟨htext, ?_, ?_, rfl, ?_⟩
    all_goals simp [Token.kind]
  | heading | doc =>
    refine ⟨htext, ?_, nofun, rfl, by simp [Token.kind]⟩
    intro _
    apply htrimmed
  | declaration =>
    refine ⟨htext, ?_, ?_, rfl, by simp [Token.kind]⟩
    . intro _
      apply htrimmed
    . intro _
      refine ⟨?_, ?_, ?_⟩
      all_goals exact not_mem_variantName (by decide) _

theorem configShape_of_comment (hlf : Text.lf ∉ line) (htext : token.text = commentText line)
    (hkind : token.kind = .doc ∨ token.kind = .heading)
    (htarget : token.target? ≠ none ↔ token.kind = .heading) : ConfigShape line token := by
  have hrest : Text.lf ∉ line.drop 3 := by
    intro hmem
    exact hlf (List.mem_of_mem_drop hmem)
  have hother : ∀ kind, kind ≠ .doc → kind ≠ .heading → token.kind ≠ kind := by
    rintro kind hdoc hheading rfl
    exact hkind.elim hdoc hheading
  refine ⟨?_, ?_, ?_, htarget, hother _ nofun nofun, hother _ nofun nofun⟩
  . rintro ⟨-, hstart, hend⟩
    refine ⟨unframe (line.drop 3), ?_, htext.trans (commentText_of_framed hstart hend)⟩
    intro hmem
    exact hrest ((unframe_isInfix _).subset hmem)
  . intro hnot
    rw [htext, commentText_of_not_framed]
    . exact hrest
    . intro hframed
      exact hnot ⟨hkind, hframed⟩
  . intro hdeclaration
    exact absurd hdeclaration (hother _ nofun nofun)

theorem configShape_of_other (hlf : Text.lf ∉ token.text)
    (hkind : token.kind ∈ [.plain, .skip, .blank, .empty, .declaration])
    (hname : token.kind = .declaration → token.text ≠ [] ∧ Text.BlankFree token.text) :
    ConfigShape line token := by
  have hother : ∀ kind, kind ∉ [.plain, .skip, .blank, .empty, .declaration] → token.kind ≠ kind := by
    rintro kind hnot rfl
    exact hnot hkind
  have hdoc : token.kind ≠ .doc := hother _ (by decide)
  have hheading : token.kind ≠ .heading := hother _ (by decide)
  have htarget : token.target? = none := by
    cases token with
    | heading text target => exact absurd rfl hheading
    | _ => rfl
  refine ⟨?_, fun _ => hlf, hname, ?_, hother _ (by decide), hother _ (by decide)⟩
  . rintro ⟨hframed, -⟩
    exact absurd hframed (not_or.mpr ⟨hdoc, hheading⟩)
  . simp [htarget, hheading]

theorem configShape_of_classifyConfig (h : classifyConfig v line = some token) (hlf : Text.lf ∉ line) :
    ConfigShape line token := by
  cases configRule_of_classifyConfig h with
  | skip => exact configShape_of_other List.not_mem_nil (by decide) nofun
  | heading => exact configShape_of_comment hlf rfl (.inr rfl) (by simp [Token.target?, Token.kind])
  | statement hrule =>
    cases hrule with
    | doc => exact configShape_of_comment hlf rfl (.inl rfl) (by simp [Token.target?, Token.kind])
    | blank | empty => exact configShape_of_other List.not_mem_nil (by decide) nofun
    | plain => exact configShape_of_other hlf (by simp [Token.kind]) nofun
    | declaration _ hword =>
      have hpart := Text.firstWord?_isInfix line
      rw [hword] at hpart
      apply configShape_of_other
      . intro hmem
        exact hlf (hpart.subset hmem)
      . simp [Token.kind]
      . intro _
        exact Text.ne_nil_and_blankFree_of_firstWord? hword

theorem functionShape_classifyFunction (v : Vocabulary) (hlf : Text.lf ∉ line) :
    FunctionShape (classifyFunction v line) := by
  have htext : Text.lf ∉ (classifyFunction v line).text := by
    intro hmem
    exact hlf ((text_classifyFunction_isInfix v line).subset hmem)
  have hrule := functionRule_classifyFunction v line
  generalize classifyFunction v line = token at htext hrule
  cases hrule with
  | doc => exact ⟨htext, nofun, rfl, .inr (.inl rfl)⟩
  | declaration =>
    refine ⟨htext, ?_, rfl, .inr (.inr rfl)⟩
    intro _
    refine ⟨blankFree_functionName _, ?_, ?_⟩
    all_goals exact not_mem_functionName (by decide) _
  | plain => exact ⟨htext, nofun, rfl, .inl rfl⟩

/--
Every token has the shape that belongs to its mode.
-/
theorem hasShape_of_classify (h : classify mode v line = some token) (hlf : Text.lf ∉ line) :
    HasShape mode line token := by
  cases mode with
  | none =>
    cases h
    rfl
  | some mode =>
    cases mode with
    | enumeration =>
      cases h
      exact enumShape_classifyEnum v hlf
    | configuration => exact configShape_of_classifyConfig h hlf
    | function =>
      cases h
      exact functionShape_classifyFunction v hlf

theorem hasShape_framedHeading :
    classify (some .configuration) {} "-- ### Modes ----" =
        some (.heading "\n### Modes\n" (some .modes))
      ∧ Text.lf ∉ Text.ofString "-- ### Modes ----"
      ∧ IsFramed "-- ### Modes ----" (.heading "\n### Modes\n" (some .modes))
      ∧ ∃ title, Text.lf ∉ title ∧ Text.ofString "\n### Modes\n" = [Text.lf] ++ title ++ [Text.lf] := by
  have htoken : classify (some .configuration) {} "-- ### Modes ----" =
      some (.heading "\n### Modes\n" (some .modes)) := by
    decide +kernel
  have hlf : Text.lf ∉ Text.ofString "-- ### Modes ----" := by
    decide +kernel
  have hframed : IsFramed "-- ### Modes ----" (.heading "\n### Modes\n" (some .modes)) := by
    refine ⟨.inr rfl, ?_, ?_⟩
    all_goals decide +kernel
  have hshape : ConfigShape _ _ := hasShape_of_classify htoken hlf
  exact ⟨htoken, hlf, hframed, hshape.framed hframed⟩

end Source

end Commentary
