import Commentary.Proofs.CommandLine.Keep

/-!
This module contains what becomes of the profiles of a command. Every snapshot is written that can be,
whatever becomes of the others, but only if the command succeeds: one that fails leaves the profile of
the processor unfinished and takes no snapshot.
-/

namespace Commentary

namespace Profiler

open FileSystem

variable {refuses? : Refusals} {fs next after : FileSystem} {l : Location} {s : String × Text}
  {ss others : List (String × Text)} {config : ProfileConfig}

def Creatable (refuses? : Refusals) (fs : FileSystem) (s : String × Text) : Prop :=
  ∃ after, fs.writeFile s.2 .profile (refuses? (.writeProfile s.1 s.2)) = .ok after

def Lands (refuses? : Refusals) (fs : FileSystem) (s : String × Text) (l : Location) : Prop :=
  refuses? (.writeProfile s.1 s.2) = none ∧ fs.locateForWriting s.2 = .ok l

theorem creatable_iff : Creatable refuses? fs s ↔ ∃ l, Lands refuses? fs s l := by
  unfold Creatable Lands
  constructor
  . rintro ⟨after, hwrite⟩
    obtain ⟨hgranted, l, hplace, -⟩ := writeFile_eq_ok_iff.mp hwrite
    exact ⟨l, hgranted, hplace⟩
  . rintro ⟨l, hgranted, hplace⟩
    exact ⟨_, writeFile_eq_ok_iff.mpr ⟨hgranted, l, hplace, rfl⟩⟩

theorem SameDirectories.lands_iff (h : SameDirectories fs after) :
    Lands refuses? after s l ↔ Lands refuses? fs s l := by
  unfold Lands
  rw [h.locateForWriting_eq_ok_iff]

structure Taken (refuses? : Refusals) (fs : FileSystem) (ss : List (String × Text))
    (after : FileSystem) : Prop where
  same : SameDirectories fs after
  written : ∀ s ∈ ss, ∀ l, Lands refuses? fs s l → after.get? l = some (.file .profile)
  unchanged : ∀ l, (∀ s ∈ ss, ¬ Lands refuses? fs s l) → after.get? l = fs.get? l

namespace Taken

theorem nil (refuses? : Refusals) (fs : FileSystem) : Taken refuses? fs [] fs where
  same := .refl fs
  written := by simp
  unchanged _ _ := rfl

theorem of_put (hlands : Lands refuses? fs s l) :
    Taken refuses? fs [s] (fs.put l (.file .profile)) := by
  have hroot := ne_nil_of_get?_ne (locateForWriting_eq_ok_iff.mp hlands.2).2.2
  constructor
  . exact .of_put hlands.2 _
  . intro other hother k hk
    rw [List.mem_singleton.mp hother] at hk
    obtain rfl : l = k := Except.ok.inj (hlands.2.symm.trans hk.2)
    rw [get?_put hroot, if_pos rfl]
  . intro k hk
    rw [get?_put hroot, if_neg]
    rintro rfl
    exact hk s (List.mem_singleton_self s) hlands

theorem of_not_creatable (h : ¬ Creatable refuses? fs s) : Taken refuses? fs [s] fs where
  same := .refl fs
  written := by
    intro other hother l hlands
    rw [List.mem_singleton.mp hother] at hlands
    exact absurd (creatable_iff.mpr ⟨l, hlands⟩) h
  unchanged _ _ := rfl

theorem get?_profile (h : Taken refuses? fs ss after) (hl : fs.get? l = some (.file .profile)) :
    after.get? l = some (.file .profile) := by
  by_cases hmem : ∃ s ∈ ss, Lands refuses? fs s l
  . obtain ⟨s, hs, hlands⟩ := hmem
    exact h.written s hs l hlands
  . push Not at hmem
    rw [h.unchanged l hmem, hl]

theorem append (h : Taken refuses? fs ss next) (hnext : Taken refuses? next others after) :
    Taken refuses? fs (ss ++ others) after where
  same := h.same.trans hnext.same
  written := by
    intro s hs l hlands
    rcases List.mem_append.mp hs with hs | hs
    . exact hnext.get?_profile (h.written s hs l hlands)
    . exact hnext.written s hs l ((SameDirectories.lands_iff h.same).mpr hlands)
  unchanged := by
    intro l hl
    rw [List.forall_mem_append] at hl
    rw [hnext.unchanged, h.unchanged l hl.1]
    intro s hs hlands
    exact hl.2 s hs ((SameDirectories.lands_iff h.same).mp hlands)

theorem creatable_iff (h : Taken refuses? fs ss after) :
    Creatable refuses? after s ↔ Creatable refuses? fs s := by
  simp only [Profiler.creatable_iff, SameDirectories.lands_iff h.same]

theorem find (h : Taken refuses? fs ss after) (hs : s ∈ ss) (hcreatable : Creatable refuses? fs s) :
    after.find s.2 = .ok (.file .profile) := by
  obtain ⟨l, hlands⟩ := Profiler.creatable_iff.mp hcreatable
  exact h.same.find hlands.2 (h.written s hs l hlands)

end Taken

theorem taken_writeSnapshot (refuses? : Refusals) (fs : FileSystem) (s : String × Text) :
    Taken refuses? fs [s] (writeSnapshot refuses? fs s).1
      ∧ ((writeSnapshot refuses? fs s).2 = none ↔ Creatable refuses? fs s) := by
  unfold writeSnapshot
  split
  . next hwrite =>
    obtain ⟨hgranted, l, hplace, rfl⟩ := writeFile_eq_ok_iff.mp hwrite
    exact ⟨.of_put ⟨hgranted, hplace⟩, by simp [Creatable, hwrite]⟩
  . next hwrite =>
    have hnot : ¬ Creatable refuses? fs s := by
      simp [Creatable, hwrite]
    exact ⟨.of_not_creatable hnot, by simp [hnot]⟩

theorem writeSnapshots_cons (refuses? : Refusals) (fs : FileSystem) (s : String × Text)
    (ss : List (String × Text)) :
    (writeSnapshots refuses? fs (s :: ss)).1 =
        (writeSnapshots refuses? (writeSnapshot refuses? fs s).1 ss).1
      ∧ ((writeSnapshots refuses? fs (s :: ss)).2 = none
        ↔ (writeSnapshot refuses? fs s).2 = none
          ∧ (writeSnapshots refuses? (writeSnapshot refuses? fs s).1 ss).2 = none) := by
  rw [writeSnapshots]
  dsimp only
  split
  . next hfirst hrest => simp [hfirst, hrest]
  . next hfirst => simp [hfirst]
  . next hrest _ => simp [hrest]

theorem taken_writeSnapshots (refuses? : Refusals) (fs : FileSystem) (ss : List (String × Text)) :
    Taken refuses? fs ss (writeSnapshots refuses? fs ss).1
      ∧ ((writeSnapshots refuses? fs ss).2 = none ↔ ∀ s ∈ ss, Creatable refuses? fs s) := by
  induction ss generalizing fs with
  | nil => exact ⟨.nil refuses? fs, by simp [writeSnapshots]⟩
  | cons s ss ih =>
    obtain ⟨hfs, herror⟩ := writeSnapshots_cons refuses? fs s ss
    obtain ⟨hfirst, hfirstError⟩ := taken_writeSnapshot refuses? fs s
    obtain ⟨hrest, hrestError⟩ := ih (writeSnapshot refuses? fs s).1
    constructor
    . rw [hfs]
      exact hfirst.append hrest
    . rw [herror, hfirstError, hrestError, List.forall_mem_cons]
      simp only [hfirst.creatable_iff]

theorem keeps_start (refuses? : Refusals) (p : Profiler) (fs : FileSystem) :
    Keeps fs (p.start fs refuses?).fs := by
  unfold start
  split
  . exact .refl _
  . split
    . exact .refl _
    . next hwrite =>
      split
      . exact .of_writeFile hwrite
      . exact .of_writeFile hwrite

theorem start_cases (h : (start { config } fs refuses?).error = none) :
    config.cpu = [] ∧ start { config } fs refuses? = { profiler := { config }, fs }
      ∨ config.cpu ≠ [] ∧ ∃ l, Lands refuses? fs ("cpu", config.cpu) l
        ∧ start { config } fs refuses? =
          { profiler := { config, running := true }, fs := fs.put l (.file (.text [])) } := by
  unfold start at h ⊢
  by_cases hcpu : config.cpu = []
  . left
    exact ⟨hcpu, if_pos hcpu⟩
  . right
    rw [if_neg hcpu] at h ⊢
    refine ⟨hcpu, ?_⟩
    dsimp only at h ⊢
    split at h
    . cases h
    . next hwrite =>
      obtain ⟨hgranted, l, hplace, rfl⟩ := writeFile_eq_ok_iff.mp hwrite
      exact ⟨l, ⟨hgranted, hplace⟩, rfl⟩

def closed (p : Profiler) (fs : FileSystem) : FileSystem :=
  if p.running then fs.rewriteFile p.config.cpu .profile else fs

theorem sameDirectories_closed (p : Profiler) (fs : FileSystem) : SameDirectories fs (p.closed fs) := by
  unfold closed
  split
  . apply SameDirectories.of_rewriteFile
  . exact .refl fs

theorem taken_stop (refuses? : Refusals) (p : Profiler) (fs : FileSystem) :
    Taken refuses? (p.closed fs) (snapshots p.config) (p.stop fs refuses?).fs
      ∧ ((p.stop fs refuses?).error = none ↔ ∀ s ∈ snapshots p.config, Creatable refuses? fs s) := by
  obtain ⟨hsnapshots, herror⟩ := taken_writeSnapshots refuses? (p.closed fs) (snapshots p.config)
  simp only [creatable_iff, SameDirectories.lands_iff (p.sameDirectories_closed fs)] at herror ⊢
  exact ⟨hsnapshots, herror⟩

end Profiler

namespace CommandLine

open FileSystem Profiler

namespace FlagSet

variable {p : Parsed} {flags : FlagSet} {argument name value t : Text} {arguments : List Text}

def give (flags : FlagSet) (name value : Text) : FlagSet :=
  flags.update name fun f => { f with value := .text value, changed := true }

theorem readLong_eq_give
    (hname : ¬ (name = [] ∨ name.head? = some '-'.toUInt8 ∨ name.head? = some '='.toUInt8))
    (hcut : Text.cut? "=" name = none)
    (hflag : (flags.find? name).map (fun f => (f.isSwitch, f.value)) = some (false, .text t)) :
    readLong flags name (some value) = { flags := flags.give name value, tookNext := true } := by
  obtain ⟨f, hfind, hf⟩ := Option.map_eq_some_iff.mp hflag
  obtain ⟨hswitch, hvalue⟩ := Prod.mk.inj hf
  have hfname : f.name = name := by
    simpa using List.find?_some hfind
  unfold readLong
  rw [if_neg hname, hcut]
  dsimp only
  rw [hfind]
  dsimp only
  rw [hswitch]
  simp [assign, hvalue, FlagValue.read, hfname, Step.ofAssign, give]

theorem go_of_flag (name : Text) (hargument : argument = "--" ++ name)
    (hname : ¬ (name = [] ∨ name.head? = some '-'.toUInt8 ∨ name.head? = some '='.toUInt8))
    (hcut : Text.cut? "=" name = none)
    (hflag : (p.flags.find? name).map (fun f => (f.isSwitch, f.value)) = some (false, .text t)) :
    parse.go false p (argument :: value :: arguments) =
      parse.go false { p with flags := p.flags.give name value } arguments := by
  obtain ⟨b, rest, rfl⟩ := List.exists_cons_of_ne_nil (fun h => hname (.inl h))
  rw [hargument]
  change parse.go false p ((45 :: 45 :: b :: rest) :: value :: arguments) = _
  rw [parse.go]
  . simp only [List.head?_cons, readLong_eq_give hname hcut hflag, parse.next]
    rw [parse.go]
  . simp

theorem go_of_plain (h : argument.head? ≠ some 45 ∨ argument.tail = []) :
    parse.go false p (argument :: arguments) =
      parse.go false { p with rest := p.rest ++ [argument] } arguments := by
  rw [parse.go]
  . rintro rfl
    simp at h
  . rintro name rfl
    simp at h
  . rintro c group rfl
    simp at h

end FlagSet

/--
An invocation of a documented command that comes to the command itself: its arguments are in order, its
log options are valid and its profiler starts.
-/
structure Begun (i : Invocation) (fs : FileSystem) where
  command : Command
  rest : List Text
  flags : FlagSet
  arguments : List Text
  handler : Log.Handler
  documented : command ∈ [.generate, .render, .schema, .version]
  found : Command.find true i.arguments = .ok (command, rest)
  read : command.flags.parse rest = { flags, rest := arguments }
  noHelp : flags.bool "help" = false
  fits : command.fault? arguments = none
  log : Log.Handler.ofNames (LogNames.read {} flags).level (LogNames.read {} flags).format = .ok handler
  start : (Profiler.start { config := ProfileNames.read {} flags } fs i.platform.refuses?).error = none

namespace Begun

variable {i : Invocation} {fs : FileSystem}

def config (b : Begun i fs) : ProfileConfig :=
  ProfileNames.read {} b.flags

def started (b : Begun i fs) : Profiler.Outcome :=
  Profiler.start { config := b.config } fs i.platform.refuses?

def done (b : Begun i fs) : Result :=
  perform i b.handler b.command b.flags b.arguments b.started.fs

def stopped (b : Begun i fs) : Profiler.Outcome :=
  b.started.profiler.stop b.done.fs i.platform.refuses?

theorem performProfiled_eq (b : Begun i fs) :
    performProfiled i b.command b.flags b.arguments fs =
      match b.done.failure with
      | some _ => b.done
      | none => { b.done with fs := b.stopped.fs, failure := b.stopped.error.map .error } := by
  unfold performProfiled
  dsimp only
  rw [b.log]
  dsimp only
  rw [b.start]
  rfl

theorem run_eq (b : Begun i fs) :
    run i fs = performProfiled i b.command b.flags b.arguments fs := by
  have hcomplete : b.command ≠ .complete := by
    intro h
    have hdocumented := b.documented
    rw [h] at hdocumented
    revert hdocumented
    decide
  have hrunnable : b.command.isRunnable = true := by
    have hall : [Command.generate, .render, .schema, .version].all Command.isRunnable = true := rfl
    rw [List.all_eq_true] at hall
    exact hall _ b.documented
  unfold run
  rw [b.found]
  dsimp only
  unfold runCommand
  rw [if_neg hcomplete, b.read]
  simp [b.noHelp, hrunnable, b.fits]

theorem run_of_failure (b : Begun i fs) (h : b.done.failure ≠ none) : run i fs = b.done := by
  obtain ⟨failure, hfailure⟩ := Option.ne_none_iff_exists'.mp h
  rw [b.run_eq, b.performProfiled_eq, hfailure]

theorem run_of_success (b : Begun i fs) (h : b.done.failure = none) :
    run i fs = { b.done with fs := b.stopped.fs, failure := b.stopped.error.map .error } := by
  rw [b.run_eq, b.performProfiled_eq, h]

theorem keeps_done (b : Begun i fs) (hformatter : i.platform.formatter.Keeping) :
    Keeps b.started.fs b.done.fs :=
  keeps_perform hformatter b.handler b.command b.flags b.arguments b.started.fs

theorem started_cases (b : Begun i fs) :
    b.config.cpu = [] ∧ b.started = { profiler := { config := b.config }, fs }
      ∨ b.config.cpu ≠ [] ∧ ∃ l, Lands i.platform.refuses? fs ("cpu", b.config.cpu) l
        ∧ b.started =
          { profiler := { config := b.config, running := true }
            fs := fs.put l (.file (.text [])) } :=
  start_cases b.start

theorem config_started (b : Begun i fs) : b.started.profiler.config = b.config := by
  rcases b.started_cases with ⟨-, hstarted⟩ | ⟨-, l, -, hstarted⟩
  . rw [hstarted]
  . rw [hstarted]

theorem running_started_iff (b : Begun i fs) :
    b.started.profiler.running = true ↔ b.config.cpu ≠ [] := by
  rcases b.started_cases with ⟨hcpu, hstarted⟩ | ⟨hcpu, l, -, hstarted⟩
  . rw [hstarted]
    simp [hcpu]
  . rw [hstarted]
    simp [hcpu]

theorem exists_file_cpu (b : Begun i fs) (hformatter : i.platform.formatter.Keeping)
    (h : b.config.cpu ≠ []) :
    ∃ l t, Lands i.platform.refuses? b.done.fs ("cpu", b.config.cpu) l
      ∧ b.done.fs.get? l = some (.file (.text t)) := by
  rcases b.started_cases with ⟨hcpu, -⟩ | ⟨-, l, ⟨hgranted, hplace⟩, hstarted⟩
  . exact absurd hcpu h
  . have hkeeps := b.keeps_done hformatter
    have hroot := ne_nil_of_get?_ne (locateForWriting_eq_ok_iff.mp hplace).2.2
    have hplace : b.started.fs.locateForWriting b.config.cpu = .ok l := by
      rw [hstarted]
      exact (SameDirectories.of_put hplace _).locateForWriting_eq_ok_iff.mpr hplace
    have hfile : b.started.fs.get? l = some (.file (.text [])) := by
      rw [hstarted, get?_put hroot, if_pos rfl]
    obtain ⟨contents, hdone⟩ := hkeeps.file l _ hfile
    cases contents with
    | text t => exact ⟨l, t, ⟨hgranted, hkeeps.locateForWriting hplace hfile⟩, hdone⟩
    | profile =>
      have hold := hkeeps.profile l hdone
      rw [hfile] at hold
      cases hold

def asked (b : Begun i fs) : List (String × Text) :=
  [("heap", b.config.heap), ("allocs", b.config.allocations), ("goroutine", b.config.tasks)]

structure Ended (b : Begun i fs) : Prop where
  cpu : i.platform.formatter.Keeping → b.config.cpu ≠ [] →
    (run i fs).fs.find b.config.cpu = .ok (.file .profile)
  snapshots : ∀ s ∈ b.asked, s.2 ≠ [] → Creatable i.platform.refuses? b.done.fs s →
    (run i fs).fs.find s.2 = .ok (.file .profile)

theorem find_cpu_stopped (b : Begun i fs) (hformatter : i.platform.formatter.Keeping)
    (hcpu : b.config.cpu ≠ []) : b.stopped.fs.find b.config.cpu = .ok (.file .profile) := by
  obtain ⟨l, t, ⟨-, hplace⟩, hfile⟩ := b.exists_file_cpu hformatter hcpu
  have htaken := (taken_stop i.platform.refuses? b.started.profiler b.done.fs).1
  have hsame := (b.started.profiler.sameDirectories_closed b.done.fs).trans htaken.same
  have hclosed : (b.started.profiler.closed b.done.fs).get? l = some (.file .profile) := by
    have hroot := ne_nil_of_get?_ne (locateForWriting_eq_ok_iff.mp hplace).2.2
    rw [closed, if_pos (b.running_started_iff.mpr hcpu), b.config_started,
      rewriteFile_eq_put hplace hfile, get?_put hroot, if_pos rfl]
  exact hsame.find hplace (htaken.get?_profile hclosed)

theorem ended_of_success (b : Begun i fs) (h : b.done.failure = none) : Ended b := by
  have hrun := b.run_of_success h
  constructor
  . intro hformatter hcpu
    rw [hrun]
    exact b.find_cpu_stopped hformatter hcpu
  . intro s hs hne hcreatable
    have htaken := (taken_stop i.platform.refuses? b.started.profiler b.done.fs).1
    rw [b.config_started] at htaken
    have hmem : s ∈ Profiler.snapshots b.config := List.mem_filter.mpr ⟨hs, by simpa using hne⟩
    rw [hrun]
    apply htaken.find hmem
    rw [creatable_iff] at hcreatable ⊢
    simp only [SameDirectories.lands_iff (b.started.profiler.sameDirectories_closed b.done.fs)]
    exact hcreatable

theorem failure_run_eq_none_iff (b : Begun i fs) (h : b.done.failure = none) :
    (run i fs).failure = none
      ↔ ∀ s ∈ b.asked, s.2 ≠ [] → Creatable i.platform.refuses? b.done.fs s := by
  have herror := (taken_stop i.platform.refuses? b.started.profiler b.done.fs).2
  rw [b.config_started] at herror
  rw [b.run_of_success h]
  dsimp only
  rw [Option.map_eq_none_iff, stopped, herror]
  simp only [Profiler.snapshots, asked, List.mem_filter, decide_eq_true_eq, and_imp]

/--
The profiles come to their end if the command succeeds, and the run then fails only for a snapshot that
cannot be written. If the command fails, its result is that of the run: the profile of the processor is
still being taken. Its file has nothing of it then, and there is no profile that was not there before,
unless the formatter has to do with that.
-/
theorem profiles_end_with_success (b : Begun i fs) :
    (b.done.failure = none →
      run i fs = { b.done with fs := b.stopped.fs, failure := b.stopped.error.map .error }
        ∧ b.stopped.profiler.running = false
        ∧ Ended b
        ∧ ((run i fs).failure = none
          ↔ ∀ s ∈ b.asked, s.2 ≠ [] → Creatable i.platform.refuses? b.done.fs s))
      ∧ (b.done.failure ≠ none →
        run i fs = b.done
          ∧ (b.config.cpu ≠ [] → b.started.profiler.running = true)
          ∧ (i.platform.formatter.Keeping →
            (b.config.cpu ≠ [] → ∃ t, (run i fs).fs.find b.config.cpu = .ok (.file (.text t)))
              ∧ ∀ l, (run i fs).fs.get? l = some (.file .profile) →
                fs.get? l = some (.file .profile))) := by
  constructor
  . intro hsuccess
    exact ⟨b.run_of_success hsuccess, rfl, b.ended_of_success hsuccess,
      b.failure_run_eq_none_iff hsuccess⟩
  . intro hfails
    have hrun := b.run_of_failure hfails
    refine ⟨hrun, b.running_started_iff.mpr, ?_⟩
    intro hformatter
    rw [hrun]
    constructor
    . intro hcpu
      obtain ⟨l, t, hlands, hfile⟩ := b.exists_file_cpu hformatter hcpu
      exact ⟨t, (SameDirectories.refl _).find hlands.2 hfile⟩
    . intro l hl
      have hkeeps := (keeps_start _ _ fs).trans (b.keeps_done hformatter)
      exact hkeeps.profile l hl

end Begun

def partlyProfiled : Invocation where
  arguments :=
    ["--cpu-profile", "c.prof", "--heap-profile", "missing/h.prof", "--goroutine-profile", "g.prof",
      "version"]

def partlyProfiledFlags : FlagSet :=
  ((Command.flags .version).give "cpu-profile" "c.prof" |>.give "heap-profile" "missing/h.prof").give
    "goroutine-profile" "g.prof"

theorem read_partlyProfiledFlags :
    ProfileNames.read {} partlyProfiledFlags =
      { cpu := "c.prof", heap := "missing/h.prof", tasks := "g.prof" } := by
  decide +kernel

theorem parse_partlyProfiled :
    (Command.flags .version).parse
        ["--cpu-profile", "c.prof", "--heap-profile", "missing/h.prof", "--goroutine-profile", "g.prof"] =
      { flags := partlyProfiledFlags } := by
  rw [FlagSet.parse,
    FlagSet.go_of_flag "cpu-profile" (t := []) (by decide) (by decide) (by decide) (by decide +kernel),
    FlagSet.go_of_flag "heap-profile" (t := []) (by decide) (by decide) (by decide) (by decide +kernel),
    FlagSet.go_of_flag "goroutine-profile" (t := []) (by decide) (by decide) (by decide)
      (by decide +kernel),
    FlagSet.parse.go]
  rfl

def partlyProfiledBegun : Begun partlyProfiled {} where
  command := .version
  rest :=
    ["--cpu-profile", "c.prof", "--heap-profile", "missing/h.prof", "--goroutine-profile", "g.prof"]
  flags := partlyProfiledFlags
  arguments := []
  handler := {}
  documented := by decide
  found := by decide +kernel
  read := parse_partlyProfiled
  noHelp := by decide +kernel
  fits := by decide
  log := by decide +kernel
  start := by
    rw [read_partlyProfiledFlags]
    decide +kernel

theorem partlyProfiled_profiles_end :
    partlyProfiledBegun.done.failure = none
      ∧ (run partlyProfiled {}).fs.find "c.prof" = .ok (.file .profile)
      ∧ (run partlyProfiled {}).fs.find "g.prof" = .ok (.file .profile)
      ∧ (run partlyProfiled {}).failure ≠ none := by
  have hconfig : partlyProfiledBegun.config =
      { cpu := "c.prof", heap := "missing/h.prof", tasks := "g.prof" } :=
    read_partlyProfiledFlags
  have hdone : partlyProfiledBegun.done.fs =
      { entries := [([Text.ofString "c.prof"], .file (.text []))] } := by
    change (Profiler.start { config := partlyProfiledBegun.config } {}).fs = _
    rw [hconfig]
    decide +kernel
  have hsuccess : partlyProfiledBegun.done.failure = none := rfl
  obtain ⟨-, -, hended, hfailure⟩ := partlyProfiledBegun.profiles_end_with_success.1 hsuccess
  have hcpu := hended.cpu Shell.keeping_run
  have hsnapshots := hended.snapshots
  rw [Begun.asked, hconfig] at hsnapshots hfailure
  rw [hconfig] at hcpu
  refine ⟨hsuccess, hcpu (by decide), ?_, ?_⟩
  . apply hsnapshots ("goroutine", "g.prof") (by simp) (by decide)
    rw [hdone]
    exact ⟨_, rfl⟩
  . intro hnone
    obtain ⟨after, hwrite⟩ := hfailure.mp hnone ("heap", "missing/h.prof") (by simp) (by decide)
    rw [hdone] at hwrite
    cases hwrite

def failsProfiled : Invocation where
  arguments := ["--allocs-profile", "a.prof", "render", "everything", "-"]

def failsProfiledFlags : FlagSet :=
  (Command.flags .render).give "allocs-profile" "a.prof"

theorem read_failsProfiledFlags :
    ProfileNames.read {} failsProfiledFlags = { allocations := "a.prof" } := by
  decide +kernel

theorem parse_failsProfiled :
    (Command.flags .render).parse ["--allocs-profile", "a.prof", "everything", "-"] =
      { flags := failsProfiledFlags, rest := ["everything", "-"] } := by
  rw [FlagSet.parse,
    FlagSet.go_of_flag "allocs-profile" (t := []) (by decide) (by decide) (by decide) (by decide +kernel),
    FlagSet.go_of_plain (by decide), FlagSet.go_of_plain (by decide), FlagSet.parse.go]
  rfl

def failsProfiledBegun : Begun failsProfiled {} where
  command := .render
  rest := ["--allocs-profile", "a.prof", "everything", "-"]
  flags := failsProfiledFlags
  arguments := ["everything", "-"]
  handler := {}
  documented := by decide
  found := by decide +kernel
  read := parse_failsProfiled
  noHelp := by decide +kernel
  fits := by decide
  log := by decide +kernel
  start := by
    rw [read_failsProfiledFlags]
    decide

theorem failsProfiled_not_ended :
    failsProfiledBegun.done.failure = some (.error (.unknownPass "everything"))
      ∧ Creatable failsProfiled.platform.refuses? failsProfiledBegun.done.fs ("allocs", "a.prof")
      ∧ (run failsProfiled {}).fs.find "a.prof" = .error .notFound
      ∧ ¬ failsProfiledBegun.Ended := by
  have hconfig : failsProfiledBegun.config = { allocations := "a.prof" } := read_failsProfiledFlags
  have hdone : failsProfiledBegun.done = .fail {} (.unknownPass "everything") := by
    change Result.fail (Profiler.start { config := failsProfiledBegun.config } {}).fs _ = _
    rw [hconfig]
    rfl
  have hrun : run failsProfiled {} = .fail {} (.unknownPass "everything") := by
    rw [← hdone]
    apply Begun.run_of_failure
    simp [hdone, Result.fail]
  have hcreatable :
      Creatable failsProfiled.platform.refuses? failsProfiledBegun.done.fs ("allocs", "a.prof") := by
    rw [hdone]
    exact ⟨_, rfl⟩
  have hmissing : (run failsProfiled {}).fs.find "a.prof" = .error .notFound := by
    rw [hrun]
    decide
  refine ⟨by rw [hdone]; rfl, hcreatable, hmissing, ?_⟩
  intro hended
  have hsnapshots := hended.snapshots ("allocs", "a.prof")
  rw [Begun.asked, hconfig, hmissing] at hsnapshots
  cases hsnapshots (by simp) (by decide) hcreatable

end CommandLine

end Commentary
