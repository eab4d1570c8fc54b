import Commentary.Proofs.Generate.Delivery

/-!
This module contains what a run leaves behind if a page cannot be delivered. Delivery is not undone: the
pages before that one stay delivered, that one is not, and those after it are not tried.
-/

namespace Commentary

namespace Error

def chain : Error → List Error
  | .passFailed pass cause => .passFailed pass cause :: chain cause
  | .manifestAt path cause => .manifestAt path cause :: chain cause
  | .invalidArgument cause => .invalidArgument cause :: chain cause
  | .several first others => .several first others :: (chain first ++ chain others)
  | e => [e]

def isPassFailure : Error → Bool
  | .passFailed _ _ => true
  | _ => false

def isOutputFailure : Error → Bool
  | .outputFile _ | .outputStream _ => true
  | _ => false

end Error

namespace FileSystem

variable {fs after : FileSystem} {p q : Text} {l : Location}

structure Prepared (fs : FileSystem) (p : Text) (after : FileSystem) : Prop where
  workingDirectory : after.workingDirectory = fs.workingDirectory
  unreadable : after.unreadable = fs.unreadable
  get? : ∀ l, after.get? l = fs.get? l
    ∨ (l ∈ onTheWay fs.workingDirectory p ∧ fs.get? l = none ∧ after.get? l = some .directory)

namespace Prepared

theorem of_makeDirectories (refuses? : Text → Option FileError) (fs : FileSystem) (p : Text) :
    Prepared fs p (fs.makeDirectories (Path.parent p) refuses?).1 := by
  -- This holds whether or not all the directories could be made.
  obtain ⟨done, hdone, hmade, -⟩ := Made.exists_makeDirectories refuses? fs (Path.parent p)
  constructor
  . exact hmade.workingDirectory
  . exact hmade.unreadable
  . intro l
    rw [hmade.get?]
    split
    . next hnew =>
      obtain ⟨q, hq, rfl⟩ := List.mem_map.mp hnew.1
      right
      refine ⟨?_, hnew.2, rfl⟩
      apply mem_onTheWay_of_mem_trail_parent
      exact destination_mem_trail (hdone.subset hq)
    . exact .inl rfl

theorem get?_of_some {e : Entry} (h : Prepared fs p after) (hl : fs.get? l = some e) :
    after.get? l = some e := by
  rcases h.get? l with hsame | ⟨-, hnone, -⟩
  . rw [hsame, hl]
  . rw [hl] at hnone
    cases hnone

theorem get?_file_iff {contents : Contents} (h : Prepared fs p after) :
    after.get? l = some (.file contents) ↔ fs.get? l = some (.file contents) := by
  rcases h.get? l with hsame | ⟨-, hnone, hnew⟩
  . rw [hsame]
  . rw [hnone, hnew]
    simp

theorem find {e : Entry} (h : Prepared fs p after) (hfind : fs.find q = .ok e) :
    after.find q = .ok e := by
  obtain ⟨hq, hway, hget⟩ := find_eq_ok_iff_destination.mp hfind
  rw [find_eq_ok_iff_destination, h.workingDirectory]
  refine ⟨hq, ?_, h.get?_of_some hget⟩
  intro d hd
  exact h.get?_of_some (hway d hd)

theorem readFile {text : Text} (h : Prepared fs p after) (hread : fs.readFile q = .ok text) :
    after.readFile q = .ok text := by
  obtain ⟨⟨contents, hfind, hbytes⟩, hreadable⟩ := readFile_eq_ok_iff.mp hread
  rw [readFile_eq_ok_iff, h.workingDirectory, h.unreadable]
  exact ⟨⟨contents, h.find hfind, hbytes⟩, hreadable⟩

end Prepared

theorem Written.get?_file_iff {contents other : Contents} (h : Written fs p contents after)
    (hne : destination fs.workingDirectory p ≠ l) :
    after.get? l = some (.file other) ↔ fs.get? l = some (.file other) := by
  rw [h.get?, place, if_neg (Ne.symm hne)]
  split
  . next hnew => simp [hnew.2]
  . rfl

end FileSystem

namespace Generate

open FileSystem

variable {m : Manifest} {o : Options} {fs after : FileSystem} {passes : List Text}
  {before pages : List Page} {page : Page} {progress : Progress} {e : Error}

theorem WrittenAll.get?_file_iff {l : Location} {contents : Contents} (h : WrittenAll fs pages after)
    (hne : ∀ page ∈ pages, destination fs.workingDirectory page.path ≠ l) :
    after.get? l = some (.file contents) ↔ fs.get? l = some (.file contents) := by
  induction h with
  | nil => rfl
  | cons hfirst _ ih =>
    rw [List.forall_mem_cons] at hne
    rw [ih, hfirst.get?_file_iff hne.1]
    rw [hfirst.workingDirectory]
    exact hne.2

theorem exists_deliverAll_eq_deliver (h : (deliverAll o pages progress).error = some e) :
    ∃ before page others, pages = before ++ page :: others
      ∧ (deliverAll o before progress).error = none
      ∧ deliverAll o pages progress = deliver o page (deliverAll o before progress).toProgress := by
  induction pages generalizing progress with
  | nil => cases h
  | cons first pages ih =>
    cases hfirst : (deliver o first progress).error with
    | some reason =>
      refine ⟨[], first, pages, rfl, rfl, ?_⟩
      apply deliverAll_cons_of_some hfirst
    | none =>
      rw [deliverAll_cons_of_none hfirst] at h ⊢
      obtain ⟨before, page, others, rfl, hbefore, hfails⟩ := ih h
      refine ⟨first :: before, page, others, rfl, ?_, ?_⟩
      . rw [deliverAll_cons_of_none hfirst, hbefore]
      . rw [deliverAll_cons_of_none hfirst, hfails]

theorem output_write (refuses? : Refusals) (page : Page) (progress : Progress) :
    (write refuses? page progress).output = progress.output := by
  unfold write
  split
  . rfl
  . dsimp only
    split
    . rfl
    . rfl

theorem output_deliverAll_real (hreal : o.dryRun = none) (pages : List Page) (progress : Progress) :
    (deliverAll o pages progress).output = progress.output := by
  induction pages generalizing progress with
  | nil => rfl
  | cons page pages ih =>
    have hpage : (deliver o page progress).output = progress.output := by
      rw [deliver_real hreal, output_write]
    cases herror : (deliver o page progress).error with
    | some reason => rw [deliverAll_cons_of_some herror, hpage]
    | none => rw [deliverAll_cons_of_none herror, ih, hpage]

theorem delivered_deliver (h : (deliver o page progress).error = none) :
    (deliver o page progress).delivered = progress.delivered + 1 := by
  cases hdry : o.dryRun with
  | some stream =>
    rw [deliver_dry hdry, print] at h ⊢
    split at h
    . rfl
    . cases h
  | none =>
    rw [deliver_real hdry, write] at h ⊢
    split at h
    . cases h
    . dsimp only at h ⊢
      split at h
      . cases h
      . rfl

theorem delivered_deliverAll (h : (deliverAll o pages progress).error = none) :
    (deliverAll o pages progress).delivered = progress.delivered + pages.length := by
  induction pages generalizing progress with
  | nil => rfl
  | cons page pages ih =>
    obtain ⟨hpage, hrest⟩ := error_of_deliverAll_cons h
    rw [deliverAll_cons_of_none hpage, ih hrest, delivered_deliver hpage, List.length_cons]
    omega

/--
The system refuses to write a page into the file system, or the files that are there do not allow it.
`made` has the directories that have been made by then, and `written` counts the pages before this one.
-/
inductive Refused (refuses? : Refusals) (written : Nat) (fs : FileSystem) (page : Page) :
    FileError → FileSystem → Prop where
  | directory {cause : FileError} {made : FileSystem}
      (hmade : fs.makeDirectories (Path.parent page.path)
        (fun directory => refuses? (.makeDirectory written directory)) = (made, some cause)) :
      Refused refuses? written fs page cause made
  | file {cause : FileError} {made : FileSystem}
      (hmade : fs.makeDirectories (Path.parent page.path)
        (fun directory => refuses? (.makeDirectory written directory)) = (made, none))
      (hwrite : made.writeFile page.path (.text page.content)
        (refuses? (.writePage written page.path)) = .error cause) :
      Refused refuses? written fs page cause made

theorem Refused.prepared {refuses? : Refusals} {written : Nat} {cause : FileError}
    {made : FileSystem} (h : Refused refuses? written fs page cause made) :
    Prepared fs page.path made := by
  have hprepared := Prepared.of_makeDirectories
    (fun directory => refuses? (.makeDirectory written directory)) fs page.path
  cases h with
  | directory hmade =>
    rw [hmade] at hprepared
    exact hprepared
  | file hmade =>
    rw [hmade] at hprepared
    exact hprepared

theorem refused_of_write {refuses? : Refusals} (h : (write refuses? page progress).error = some e) :
    ∃ cause, e = .outputFile cause
      ∧ Refused refuses? progress.delivered progress.fs page cause (write refuses? page progress).fs := by
  unfold write at h ⊢
  split at h
  . next hmade =>
    cases h
    exact ⟨_, rfl, .directory hmade⟩
  . next hmade =>
    dsimp only at h ⊢
    split at h
    . next hwrite =>
      cases h
      exact ⟨_, rfl, .file hmade hwrite⟩
    . cases h

structure PrintedUpTo (stream : Stream) (fs : FileSystem) (before : List Page) (page : Page)
    (outcome : Outcome) : Prop where
  files : outcome.fs = fs
  refused : ∃ taken reason,
    stream.refuses? (before.flatMap printed) (printed page) = some (taken, reason)
      ∧ outcome.error = some (.outputStream reason)
      ∧ outcome.output = before.flatMap printed ++ (printed page).take taken

/--
The state of a real run that could not write a page: the pages before that one have been put at their
places, one after the other, and of that one there are at most directories on the way to it.
-/
structure WrittenUpTo (refuses? : Refusals) (fs : FileSystem) (before : List Page) (page : Page)
    (outcome : Outcome) : Prop where
  output : outcome.output = []
  workingDirectory : outcome.fs.workingDirectory = fs.workingDirectory
  unreadable : outcome.fs.unreadable = fs.unreadable
  -- Neither the page itself nor any later one is in the file system.
  files : ∃ done cause,
    done.workingDirectory = fs.workingDirectory
      ∧ done.get? = before.foldl
          (fun files page => place fs.workingDirectory files page.path (.text page.content)) fs.get?
      ∧ outcome.error = some (.outputFile cause)
      ∧ Refused refuses? before.length done page cause outcome.fs
      ∧ ∀ l, outcome.fs.get? l = done.get? l
        ∨ (l ∈ onTheWay fs.workingDirectory page.path ∧ done.get? l = none
          ∧ outcome.fs.get? l = some .directory)
  -- A page that was written lies at its path, unless another one was written over it.
  delivered : ∀ earlier written later, before = earlier ++ written :: later →
    (∀ other ∈ later,
      destination fs.workingDirectory other.path ≠ destination fs.workingDirectory written.path) →
    outcome.fs.find written.path = .ok (.file (.text written.content))
  -- There are no other files than before at a place where no page was written, and those have the same
  -- contents.
  kept : ∀ l, (∀ written ∈ before, destination fs.workingDirectory written.path ≠ l) →
    ∀ contents, outcome.fs.get? l = some (.file contents) ↔ fs.get? l = some (.file contents)
  readable : ∀ path text, fs.readFile path = .ok text →
    (∀ written ∈ before,
      destination fs.workingDirectory written.path ≠ destination fs.workingDirectory path) →
    outcome.fs.readFile path = .ok text

theorem printedUpTo_deliver {stream : Stream} {records : List Log.Record}
    (hdry : o.dryRun = some stream) (hbefore : (deliverAll o before { fs, records }).error = none)
    (h : (deliver o page (deliverAll o before { fs, records }).toProgress).error = some e) :
    PrintedUpTo stream fs before page
      (deliver o page (deliverAll o before { fs, records }).toProgress) := by
  obtain ⟨hfs, houtput⟩ := deliverAll_dry hdry hbefore
  dsimp only [List.nil_append] at hfs houtput
  rw [deliver_dry hdry, print, hfs, houtput] at h ⊢
  split
  . next htaken =>
    rw [htaken] at h
    cases h
  . next taken reason hrefused => exact ⟨rfl, taken, reason, hrefused, rfl, rfl⟩

theorem writtenUpTo_deliver {records : List Log.Record} (hreal : o.dryRun = none)
    (hbefore : (deliverAll o before { fs, records }).error = none)
    (h : (deliver o page (deliverAll o before { fs, records }).toProgress).error = some e) :
    WrittenUpTo o.platform.refuses? fs before page
      (deliver o page (deliverAll o before { fs, records }).toProgress) := by
  have hwritten := writtenAll_of_deliverAll hreal hbefore
  have houtput := output_deliverAll_real hreal before { fs, records }
  have hdelivered := delivered_deliverAll hbefore
  rw [deliver_real hreal] at h ⊢
  obtain ⟨cause, rfl, hrefused⟩ := refused_of_write h
  rw [hdelivered, Nat.zero_add] at hrefused
  have hprepared := hrefused.prepared
  constructor
  . rw [output_write, houtput]
  . rw [hprepared.workingDirectory, hwritten.workingDirectory]
  . rw [hprepared.unreadable, hwritten.unreadable]
  . refine ⟨_, cause, hwritten.workingDirectory, hwritten.get?, h, hrefused, ?_⟩
    rw [← hwritten.workingDirectory]
    exact hprepared.get?
  . rintro earlier written later rfl hlater
    apply hprepared.find
    exact hwritten.find_of_last hlater
  . intro l hne contents
    rw [hprepared.get?_file_iff, hwritten.get?_file_iff hne]
  . intro path text hread hne
    apply hprepared.readFile
    exact hwritten.readFile_of_forall_ne hread hne

theorem complete_eq_deliverAll_of_error (h : (complete m o pages progress).error = some e) :
    complete m o pages progress = deliverAll o pages progress := by
  -- The formatter does not fail a run.
  unfold complete at h ⊢
  dsimp only at h ⊢
  split
  . rfl
  . next hnone =>
    rw [hnone] at h
    dsimp only at h
    split at h
    . cases h
    . rw [hnone] at h
      cases h

theorem exists_upTo_of_complete {records : List Log.Record}
    (h : (complete m o pages { fs, records }).error = some e) :
    ∃ before page others, pages = before ++ page :: others
      ∧ (∀ stream, o.dryRun = some stream →
          PrintedUpTo stream fs before page (complete m o pages { fs, records }))
      ∧ (o.dryRun = none →
          WrittenUpTo o.platform.refuses? fs before page (complete m o pages { fs, records })) := by
  have hcomplete := complete_eq_deliverAll_of_error h
  rw [hcomplete] at h ⊢
  obtain ⟨before, page, others, hpages, hbefore, hstop⟩ := exists_deliverAll_eq_deliver h
  rw [hstop] at h ⊢
  refine ⟨before, page, others, hpages, ?_, ?_⟩
  . intro stream hdry
    exact printedUpTo_deliver hdry hbefore h
  . intro hreal
    exact writtenUpTo_deliver hreal hbefore h

/--
If all passes are rendered and the run fails, in whatever order the passes took their steps and whatever
the system or the stream refuses, then the failure is one of the output and not of a pass, and there is
one page that could not be delivered. The pages before it have been delivered, neither it nor a page
after it has, and no other file has changed.
-/
theorem failed_delivery_stops_at_one_page (m : Manifest) (o : Options) (fs : FileSystem)
    (passes : List Text) (pages : List Page) (outcome : Outcome) (e : Error)
    (hrendered : Rendered m o fs passes pages outcome) (hfails : outcome.error = some e) :
    renderAll m fs o.cancelled (requests m o.platform.engine passes) = .ok pages
      ∧ (∃ c ∈ e.chain, c.isOutputFailure = true)
      ∧ (∀ c ∈ e.chain, c.isPassFailure = false)
      ∧ (∃ reason, e.message = Text.ofString "write output: " ++ reason)
      ∧ ∃ before page others, pages = before ++ page :: others
        ∧ (∀ stream, o.dryRun = some stream → PrintedUpTo stream fs before page outcome)
        ∧ (o.dryRun = none → WrittenUpTo o.platform.refuses? fs before page outcome) := by
  have hall := hrendered.renderAll_eq
  obtain ⟨records, rfl⟩ := hrendered.exists_eq_complete
  obtain ⟨before, page, others, hpages, hprinted, hwritten⟩ := exists_upTo_of_complete hfails
  have herror : (∃ cause, e = .outputFile cause) ∨ ∃ reason, e = .outputStream reason := by
    cases hdry : o.dryRun with
    | some stream =>
      obtain ⟨-, reason, -, hreason, -⟩ := (hprinted stream hdry).refused
      rw [hfails, Option.some.injEq] at hreason
      exact .inr ⟨reason, hreason⟩
    | none =>
      obtain ⟨-, cause, -, -, hcause, -⟩ := (hwritten hdry).files
      rw [hfails, Option.some.injEq] at hcause
      exact .inl ⟨cause, hcause⟩
  -- Neither kind of failure wraps another one.
  have hchain : e.chain = [e] ∧ e.isOutputFailure = true ∧ e.isPassFailure = false := by
    rcases herror with ⟨cause, rfl⟩ | ⟨reason, rfl⟩
    . exact ⟨rfl, rfl, rfl⟩
    . exact ⟨rfl, rfl, rfl⟩
  rw [hchain.1]
  simp only [List.mem_singleton, exists_eq_left, forall_eq]
  refine ⟨hall, hchain.2.1, hchain.2.2, ?_, before, page, others, hpages, hprinted, hwritten⟩
  rcases herror with ⟨cause, rfl⟩ | ⟨reason, rfl⟩
  . exact ⟨cause.message, rfl⟩
  . exact ⟨reason, rfl⟩

def blockedByPage : Manifest where
  messages := some { source := "m.rs", output := "out/m.md" }
  functions := some { source := "f.rs", output := "out" }

def smallDisk : Options where
  platform :=
    { refuses? := fun
        | .makeDirectory _ path =>
          if path = Text.ofString "a/b" then
            some ⟨"mkdir", path, .other "no space left on device"⟩
          else
            none
        | _ => none }

def nested : Manifest where
  functions := some { source := "f.rs", output := "a/b/f.md" }

theorem failures_stop_at_one_page :
    (run blockedByPage {} twoFiles ["functions", "messages"]).error =
        some (.outputFile ⟨"mkdir", "out", .notDirectory⟩)
      ∧ (run blockedByPage {} twoFiles ["functions", "messages"]).fs.find "out" =
          .ok (.file (.text "\n### f\n\nx\n"))
      ∧ (run blockedByPage {} twoFiles ["functions", "messages"]).fs.readFile "m.rs" =
          .ok "pub enum ExternalMsg \x7b\n\x7d\n"
      ∧ (run nested smallDisk twoFiles []).error =
          some (.outputFile ⟨"mkdir", "a/b", .other "no space left on device"⟩)
      ∧ (run nested smallDisk twoFiles []).fs.get? ["w", "a"] = some .directory
      ∧ (run nested smallDisk twoFiles []).fs.readFile "f.rs" = .ok "/// x\npub fn f() \x7b\x7d\n" := by
  have hrendered : ∃ first second : Page, first.path = Text.ofString "out"
      ∧ first.content = Text.ofString "\n### f\n\nx\n"
      ∧ renderAll blockedByPage twoFiles false
          (requests blockedByPage (Platform.engine {}) ["functions", "messages"]) =
            .ok [first, second] := by
    exact ⟨_, _, rfl, rfl, rfl⟩
  obtain ⟨first, second, hpath, hcontent, hrendered⟩ := hrendered
  have hblocked : (run blockedByPage {} twoFiles ["functions", "messages"]).error =
      some (.outputFile ⟨"mkdir", "out", .notDirectory⟩) := by
    decide +kernel
  have hfull : (run nested smallDisk twoFiles []).error =
      some (.outputFile ⟨"mkdir", "a/b", .other "no space left on device"⟩) := by
    decide +kernel
  obtain ⟨-, -, -, -, before, page, others, hpages, -, hreal⟩ :=
    failed_delivery_stops_at_one_page blockedByPage {} twoFiles ["functions", "messages"]
      [first, second] _ _ (.alone hrendered rfl) hblocked
  have hwritten := hreal rfl
  have hbefore : before = [first] := by
    match before with
    | [] =>
      have hnew := hwritten.kept ["w", "out"] (by simp) (.text "\n### f\n\nx\n")
      exact absurd hnew (by decide +kernel)
    | [_] =>
      cases hpages
      rfl
    | _ :: _ :: _ => simp at hpages
  subst hbefore
  refine ⟨hblocked, ?_, ?_, hfull, by decide +kernel, ?_⟩
  . rw [← hpath, ← hcontent]
    exact hwritten.delivered [] first [] rfl (by simp)
  . apply hwritten.readable
    . decide +kernel
    . rw [List.forall_mem_singleton, hpath]
      decide +kernel
  . obtain ⟨-, -, -, -, before, page, others, hpages, -, hreal⟩ :=
      failed_delivery_stops_at_one_page nested smallDisk twoFiles [] [_] _ _ (.alone rfl rfl) hfull
    obtain rfl : before = [] := by
      cases before with
      | nil => rfl
      | cons => simp at hpages
    exact (hreal rfl).readable _ _ (by decide +kernel) (by simp)

end Generate

end Commentary
