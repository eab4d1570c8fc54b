import Commentary.Log.Basic
import Commentary.Proofs.Text.LetterCase
import Mathlib.Data.List.Nodup

/-!
This module contains the names of log levels and log formats. A name is recognised letter by letter,
whatever the case of each of them, and what is no name is refused with a message that quotes it as it was
given.
-/

namespace Commentary

namespace Log

variable {names : List (String × α)} {form : Char → Char → Prop} {refusal : Text → Error} {kind : String}

def readName (names : List (String × α)) (refusal : Text → Error) (name : Text) : Except Error α :=
  match names.find? fun entry => Text.ofString entry.1 = name.toLower with
  | some entry => .ok entry.2
  | none => .error (refusal name)

/--
The names, spelt in the given form, are the texts that are accepted. The others are refused with a
message that says of what kind they should have been and quotes them.
-/
structure Recognises (parse : Text → Except Error α) (names : List (String × α))
    (form : Char → Char → Prop) (refusal : Text → Error) (kind : String) : Prop where
  ok_iff : ∀ (name : Text) (a : α),
    parse name = .ok a ↔ ∃ entry ∈ names, entry.2 = a ∧ Text.Spells form entry.1 name
  error_iff : ∀ (name : Text) (e : Error),
    parse name = .error e ↔ e = refusal name ∧ ∀ entry ∈ names, ¬ Text.Spells form entry.1 name
  message : ∀ name : Text,
    (refusal name).message = Text.ofString ("unknown " ++ kind ++ ": ") ++ Text.quote name

section ReadName

variable (hnames : (names.map Prod.fst).Nodup)
  (hform : ∀ entry ∈ names, ∀ t, Text.toLower t = entry.1 ↔ Text.Spells form entry.1 t)

include hform

theorem find?_eq_none_iff {name : Text} :
    names.find? (fun entry => Text.ofString entry.1 = name.toLower) = none
      ↔ ∀ entry ∈ names, ¬ Text.Spells form entry.1 name := by
  rw [List.find?_eq_none]
  apply forall₂_congr
  intro entry hentry
  rw [← hform entry hentry, decide_eq_true_eq, eq_comm]

include hnames

theorem find?_eq_some_iff {name : Text} {entry : String × α} :
    names.find? (fun entry => Text.ofString entry.1 = name.toLower) = some entry
      ↔ entry ∈ names ∧ Text.Spells form entry.1 name := by
  constructor
  . intro hfind
    have hentry := List.mem_of_find?_eq_some hfind
    have hlower := List.find?_some hfind
    rw [decide_eq_true_eq, eq_comm, hform entry hentry] at hlower
    exact ⟨hentry, hlower⟩
  . rintro ⟨hentry, hspells⟩
    cases hfind : names.find? fun entry => Text.ofString entry.1 = name.toLower with
    | none => exact absurd hspells ((find?_eq_none_iff hform).mp hfind entry hentry)
    | some found =>
      -- both names are the lower case of the text, and no name occurs twice
      have hfound := List.find?_some hfind
      rw [decide_eq_true_eq, (hform entry hentry name).mpr hspells, Text.ofString_inj] at hfound
      rw [List.inj_on_of_nodup_map hnames (List.mem_of_find?_eq_some hfind) hentry hfound]

theorem recognises_readName (hmessage : ∀ name : Text,
      (refusal name).message = Text.ofString ("unknown " ++ kind ++ ": ") ++ Text.quote name) :
    Recognises (readName names refusal) names form refusal kind := by
  constructor
  . intro name a
    unfold readName
    cases hfind : names.find? fun entry => Text.ofString entry.1 = name.toLower with
    | none =>
      rw [find?_eq_none_iff hform] at hfind
      constructor
      . intro hok
        cases hok
      . rintro ⟨entry, hentry, -, hspells⟩
        exact absurd hspells (hfind entry hentry)
    | some found =>
      constructor
      . intro hok
        cases hok
        rw [find?_eq_some_iff hnames hform] at hfind
        exact ⟨found, hfind.1, rfl, hfind.2⟩
      . rintro ⟨entry, hentry, rfl, hspells⟩
        rw [(find?_eq_some_iff hnames hform).mpr ⟨hentry, hspells⟩] at hfind
        cases hfind
        rfl
  . intro name e
    unfold readName
    rw [← find?_eq_none_iff hform]
    cases names.find? fun entry => Text.ofString entry.1 = name.toLower with
    | none => simp [eq_comm]
    | some found => simp
  . exact hmessage

end ReadName

def levelNames : List (String × Level) :=
  [("warning", .warn), ("error", .error), ("warn", .warn), ("info", .info), ("debug", .debug)]

def formatNames : List (String × Format) :=
  [("text", .text), ("json", .json), ("logfmt", .logfmt)]

theorem Level.parse_eq : Level.parse = readName levelNames .unknownLogLevel := by
  have hnames : levelNames = ("warning", .warn) :: Level.all.map fun l => (l.name, l) := rfl
  funext name
  unfold parse readName ofName?
  rw [hnames, List.find?_cons, List.find?_map]
  by_cases hwarning : name.toLower = Text.ofString "warning"
  . rw [if_pos hwarning, decide_eq_true hwarning.symm]
  . rw [if_neg hwarning, decide_eq_false (Ne.symm hwarning)]
    simp only [Function.comp_def]
    cases Level.all.find? fun l => Text.ofString l.name = name.toLower with
    | none => rfl
    | some l => rfl

theorem Format.parse_eq : Format.parse = readName formatNames .unknownLogFormat := by
  have hnames : formatNames = Format.all.map fun f => (f.name, f) := rfl
  funext name
  unfold parse readName ofName?
  rw [hnames, List.find?_map]
  simp only [Function.comp_def]
  cases Format.all.find? fun f => Text.ofString f.name = name.toLower with
  | none => rfl
  | some f => rfl

def EitherCaseOrDotted (c d : Char) : Prop :=
  EitherCase c d ∨ c = 'i' ∧ d = '\u0130'

theorem form_of_letter {c : Char} (h : (c.isLower && c != 'k') = true) :
    c.isLower = true ∧ ∀ d, c = lowerChar d ↔ EitherCaseOrDotted c d := by
  rw [Bool.and_eq_true, bne_iff_ne] at h
  refine ⟨h.1, ?_⟩
  intro d
  rw [eq_lowerChar_iff h.1]
  simp [EitherCaseOrDotted, h.2]

theorem form_of_letter_of_ne {c : Char} (h : (c.isLower && c != 'k' && c != 'i') = true) :
    c.isLower = true ∧ ∀ d, c = lowerChar d ↔ EitherCase c d := by
  rw [Bool.and_eq_true, bne_iff_ne] at h
  obtain ⟨hlower, hform⟩ := form_of_letter h.1
  refine ⟨hlower, ?_⟩
  intro d
  rw [hform]
  simp [EitherCaseOrDotted, h.2]

/--
The names of levels are recognised with every letter in either case, where an `i` has two capitals, and so
are those of formats, which have no `i`. Everything else is refused and quoted as it is.
-/
theorem names_recognised_in_either_case :
    Recognises Level.parse levelNames EitherCaseOrDotted .unknownLogLevel "log level"
      ∧ Recognises Format.parse formatNames EitherCase .unknownLogFormat "log format" := by
  have hlevels : levelNames.all (fun entry => entry.1.toList.all fun c => c.isLower && c != 'k') = true := by
    decide +kernel
  have hformats : formatNames.all (fun entry =>
      entry.1.toList.all fun c => c.isLower && c != 'k' && c != 'i') = true := by
    decide +kernel
  rw [Level.parse_eq, Format.parse_eq]
  constructor
  . apply recognises_readName
    . decide +kernel
    . intro entry hentry t
      exact Text.toLower_eq_iff_spells (fun c => form_of_letter) (List.all_eq_true.mp hlevels entry hentry)
    . intro name
      rfl
  . apply recognises_readName
    . decide +kernel
    . intro entry hentry t
      exact Text.toLower_eq_iff_spells (fun c => form_of_letter_of_ne)
        (List.all_eq_true.mp hformats entry hentry)
    . intro name
      rfl

example : Level.parse (Text.ofString "WarN\u0130ng") = .ok .warn := by
  decide +kernel

end Log

end Commentary
