import Commentary.Proofs.Document.Configuration
import Commentary.Proofs.Document.Functions
import Commentary.Proofs.Document.Messages
import Commentary.Proofs.Source.Excerpt
import Commentary.Proofs.Text.Split

/-!
This module contains what the texts of an extracted document have in common with the texts of the
tokens it is made of. In particular none of them holds a line feed, since no line of a source does.
-/

namespace Commentary

theorem forall_mem_mapLast {f : α → α} {p : α → Prop} {as : List α} (hf : ∀ a, p a → p (f a))
    (h : ∀ a ∈ as, p a) : ∀ a ∈ mapLast f as, p a := by
  cases as using List.reverseRecOn with
  | nil => simp [mapLast]
  | append_singleton as last =>
    rw [mapLast_append_singleton]
    simp only [List.forall_mem_append, List.forall_mem_singleton] at h ⊢
    exact ⟨h.1, hf last h.2⟩

def Section.AllTexts (p : Text → Prop) (s : Section) : Prop :=
  p s.title ∧ ∀ line ∈ s.body, p line

namespace Category

variable {p : Text → Prop} {c : Category}

def AllTexts (p : Text → Prop) (c : Category) : Prop :=
  p c.title ∧ ∀ s ∈ c.sections, s.AllTexts p

theorem AllTexts.addLine {line : Text} (hline : p line) (h : c.AllTexts p) :
    (c.addLine line).AllTexts p := by
  constructor
  . exact h.1
  . apply forall_mem_mapLast
    . intro s hs
      constructor
      . exact hs.1
      . simp only [List.forall_mem_append, List.forall_mem_singleton]
        exact ⟨hs.2, hline⟩
    . exact h.2

theorem AllTexts.declare {name : Text} (hname : p name) (hnil : p []) (h : c.AllTexts p) :
    (c.declare name).AllTexts p := by
  constructor
  . exact h.1
  . have hold : ∀ s ∈ mapLast (fun s : Section => { s with title := name }) c.sections,
        s.AllTexts p := by
      apply forall_mem_mapLast
      . intro s hs
        exact ⟨hname, hs.2⟩
      . exact h.2
    intro s hs
    rcases List.mem_append.mp hs with hs | hs
    . exact hold s hs
    . rw [List.mem_singleton] at hs
      rw [hs]
      exact ⟨hnil, by simp⟩

end Category

namespace Messages

variable {p : Text → Prop} {m : Messages}

def AllTexts (p : Text → Prop) (m : Messages) : Prop :=
  ∀ c ∈ m.categories, c.AllTexts p

theorem AllTexts.mono {q : Text → Prop} (hpq : ∀ t, p t → q t) (h : m.AllTexts p) :
    m.AllTexts q := by
  intro c hc
  refine ⟨hpq _ (h c hc).1, ?_⟩
  intro s hs
  have htexts := (h c hc).2 s hs
  exact ⟨hpq _ htexts.1, fun line hline => hpq _ (htexts.2 line hline)⟩

theorem AllTexts.take {token : Token} (htoken : p token.text) (hnil : p []) (h : m.AllTexts p) :
    (m.take token).AllTexts p := by
  cases token with
  | heading title target =>
    intro c hc
    rcases List.mem_append.mp hc with hc | hc
    . exact h c hc
    . rw [List.mem_singleton] at hc
      rw [hc]
      refine ⟨htoken, ?_⟩
      simp only [Category.ofTitle, List.forall_mem_singleton]
      exact ⟨hnil, by simp⟩
  | doc line =>
    apply forall_mem_mapLast
    . intro c hc
      exact hc.addLine htoken
    . exact h
  | blank | empty =>
    apply forall_mem_mapLast
    . intro c hc
      exact hc.addLine hnil
    . exact h
  | declaration name =>
    apply forall_mem_mapLast
    . intro c hc
      exact hc.declare htoken hnil
    . exact h
  | plain | skip | scopeStart | scopeEnd => exact h

theorem AllTexts.foldl_take {tokens : List Token} (htokens : ∀ token ∈ tokens, p token.text)
    (hnil : p []) (h : m.AllTexts p) : (tokens.foldl Messages.take m).AllTexts p := by
  induction tokens generalizing m with
  | nil => exact h
  | cons token tokens ih =>
    simp only [List.forall_mem_cons] at htokens
    rw [List.foldl_cons]
    apply ih htokens.2
    exact h.take htokens.1 hnil

theorem mem_of_mem_scope {tokens : List Token} {token : Token} (h : token ∈ scope tokens) :
    token ∈ tokens := by
  apply (List.dropWhile_sublist (· ≠ .scopeStart)).subset
  apply List.mem_of_mem_tail
  exact (List.takeWhile_sublist _).subset h

theorem allTexts_extract {v : Vocabulary} {lines : List Text}
    (hlines : ∀ line ∈ lines, p (Source.classifyEnum v line).text) (hnil : p []) :
    (extract v lines).1.AllTexts p := by
  change (extractFrom v .outside lines).1.found.AllTexts p
  rw [(extractFrom_outside v lines).1]
  apply AllTexts.foldl_take
  . intro token htoken
    obtain ⟨line, hline, rfl⟩ := List.mem_map.mp (mem_of_mem_scope htoken)
    exact hlines line hline
  . exact hnil
  . simp [AllTexts]

theorem lf_not_mem_extract (v : Vocabulary) (text : Text) :
    (extract v text.lines).1.AllTexts (Text.lf ∉ ·) := by
  apply allTexts_extract
  . intro line hline hlf
    exact Text.lf_not_mem_of_mem_lines hline ((Source.text_classifyEnum_isInfix v line).subset hlf)
  . simp

end Messages

namespace FunctionDocs

variable {p : Text → Prop}

def Progress.AllTexts (p : Text → Prop) (s : Progress) : Prop :=
  (∀ f ∈ s.functions, p f.name ∧ ∀ line ∈ f.doc, p line) ∧ ∀ line ∈ s.pending, p line

theorem Progress.AllTexts.step {s : Progress} {token : Token} (htoken : p token.text)
    (h : s.AllTexts p) : (s.step token).AllTexts p := by
  cases token with
  | doc line =>
    refine ⟨h.1, ?_⟩
    simp only [Progress.step, List.forall_mem_append, List.forall_mem_singleton]
    exact ⟨h.2, htoken⟩
  | declaration name =>
    simp only [Progress.step]
    split
    . exact h
    . refine ⟨?_, by simp⟩
      simp only [List.forall_mem_append, List.forall_mem_singleton]
      exact ⟨h.1, htoken, h.2⟩
  | plain | skip | scopeStart | scopeEnd | heading | blank | empty => exact h

theorem Progress.AllTexts.foldl_step {tokens : List Token} {s : Progress}
    (htokens : ∀ token ∈ tokens, p token.text) (h : s.AllTexts p) :
    (tokens.foldl Progress.step s).AllTexts p := by
  induction tokens generalizing s with
  | nil => exact h
  | cons token tokens ih =>
    simp only [List.forall_mem_cons] at htokens
    rw [List.foldl_cons]
    apply ih htokens.2
    exact h.step htokens.1

def AllTexts (p : Text → Prop) (d : FunctionDocs) : Prop :=
  (∀ f ∈ d.functions, p f.name ∧ ∀ line ∈ f.doc, p line) ∧ ∀ line ∈ d.orphan.getD [], p line

theorem allTexts_extract {v : Vocabulary} {lines : List Text}
    (hlines : ∀ line ∈ lines, p (Source.classifyFunction v line).text) :
    (extract v lines).AllTexts p := by
  have hfinal : ((lines.map (Source.classifyFunction v)).foldl Progress.step {}).AllTexts p := by
    apply Progress.AllTexts.foldl_step
    . rw [List.forall_mem_map]
      exact hlines
    . simp [Progress.AllTexts]
  rw [foldl_step_eq_ofTokens] at hfinal
  unfold AllTexts
  rw [extract_eq_ofTokens, getD_orphan_ofTokens]
  exact hfinal

theorem lf_not_mem_extract (v : Vocabulary) (text : Text) :
    (extract v text.lines).AllTexts (Text.lf ∉ ·) := by
  apply allTexts_extract
  intro line hline hlf
  exact Text.lf_not_mem_of_mem_lines hline ((Source.text_classifyFunction_isInfix v line).subset hlf)

end FunctionDocs

namespace ConfigDocs

variable {p : Text → Prop}

def AllTexts (p : Text → Prop) (d : ConfigDocs) : Prop :=
  ∀ t, ∀ paragraph ∈ d.get t, ∀ line ∈ paragraph, p line

theorem allTexts_addToken {paragraphs : Paragraphs} {token : Token} (htoken : p token.text)
    (hnil : p []) (hname : ∀ name, p name → p (subHeading name))
    (h : ∀ paragraph ∈ paragraphs, ∀ line ∈ paragraph, p line) :
    ∀ paragraph ∈ addToken paragraphs token, ∀ line ∈ paragraph, p line := by
  have happend : ∀ text, p text →
      ∀ paragraph ∈ mapLast (· ++ [text]) paragraphs, ∀ line ∈ paragraph, p line := by
    intro text htext
    apply forall_mem_mapLast
    . intro current hcurrent
      rw [List.forall_mem_append, List.forall_mem_singleton]
      exact ⟨hcurrent, htext⟩
    . exact h
  cases token with
  | heading text target => exact happend text htoken
  | doc text => exact happend text htoken
  | blank => exact happend [] hnil
  | declaration name =>
    apply forall_mem_mapLast
    . intro current hcurrent
      split
      . simp
      . rw [List.forall_mem_cons]
        exact ⟨hname name htoken, hcurrent⟩
    . exact h
  | empty =>
    rw [addToken]
    split
    . exact h
    . rw [List.forall_mem_append, List.forall_mem_singleton]
      exact ⟨h, by simp⟩
  | plain | skip | scopeStart | scopeEnd => exact h

theorem AllTexts.step {s : Progress} {token : Token} (htoken : p token.text) (hnil : p [])
    (hname : ∀ name, p name → p (subHeading name)) (h : s.docs.AllTexts p) :
    (s.step token).docs.AllTexts p := by
  intro t
  rw [Progress.get_step]
  split
  . exact allTexts_addToken htoken hnil hname (h t)
  . exact h t

theorem AllTexts.extractFrom {v : Vocabulary} {lines : List Text} {s final : Progress}
    (hlines : ∀ line ∈ lines, ∀ token ∈ Source.classifyConfig v line, p token.text) (hnil : p [])
    (hname : ∀ name, p name → p (subHeading name)) (h : s.docs.AllTexts p)
    (hfinal : ConfigDocs.extractFrom v s lines = some final) : final.docs.AllTexts p := by
  induction lines generalizing s with
  | nil =>
    cases hfinal
    exact h
  | cons line lines ih =>
    rw [List.forall_mem_cons] at hlines
    rw [ConfigDocs.extractFrom] at hfinal
    cases htoken : Source.classifyConfig v line with
    | none =>
      rw [htoken] at hfinal
      cases hfinal
    | some token =>
      rw [htoken] at hfinal
      exact ih hlines.2 (h.step (hlines.1 token htoken) hnil hname) hfinal

theorem allTexts_extract {v : Vocabulary} {lines : List Text} {docs : ConfigDocs}
    (hlines : ∀ line ∈ lines, ∀ token ∈ Source.classifyConfig v line, p token.text) (hnil : p [])
    (hname : ∀ name, p name → p (subHeading name)) (h : extract v lines = some docs) :
    docs.AllTexts p := by
  obtain ⟨final, hfinal, rfl⟩ := Option.map_eq_some_iff.mp h
  apply AllTexts.extractFrom hlines hnil hname _ hfinal
  intro t
  cases t <;> simp [get]

end ConfigDocs

end Commentary
