import Commentary.Proofs.FileSystem.Walk

/-!
This module contains what the operations on files and directories change. A file that is written lies
where its path leads, the directories on the way to it exist, and everything else is as it was.
-/

namespace Commentary

namespace FileSystem

variable {fs after : FileSystem} {l : Location} {p : Text}

theorem lookup_filter_ne {entries : List (Location × Entry)} {k : Location} (h : k ≠ l) :
    (entries.filter (·.1 ≠ l)).lookup k = entries.lookup k := by
  induction entries with
  | nil => rfl
  | cons entry entries ih =>
    by_cases hl : entry.1 = l
    . have hk : (k == entry.1) = false := by
        simpa [hl] using h
      rw [List.filter_cons_of_neg (by simpa using hl), ih, List.lookup_cons, hk]
    . rw [List.filter_cons_of_pos (by simpa using hl), List.lookup_cons, List.lookup_cons, ih]

theorem get?_put (hl : l ≠ []) (e : Entry) (k : Location) :
    (fs.put l e).get? k = if k = l then some e else fs.get? k := by
  unfold get? put
  by_cases hk : k = l
  . rw [if_neg (hk ▸ hl), if_pos hk, hk, List.lookup_cons_self]
  . have hbeq : (k == l) = false := by
      simpa using hk
    rw [if_neg hk, List.lookup_cons, hbeq]
    dsimp only
    rw [lookup_filter_ne hk]

theorem ne_nil_of_get?_ne (h : fs.get? l ≠ some .directory) : l ≠ [] := by
  rintro rfl
  exact h rfl

theorem find_eq_ok_iff {e : Entry} :
    fs.find p = .ok e ↔ ∃ l, fs.locate p = .ok l ∧ fs.get? l = some e := by
  unfold find
  cases fs.locate p with
  | error fault => simp [bind, Except.bind]
  | ok l =>
    simp only [bind, Except.bind, Except.ok.injEq, exists_eq_left']
    cases fs.get? l with
    | none => simp
    | some e => simp

theorem origin_append_separator {workingDirectory : Location} (start rest : Text) :
    origin workingDirectory (start ++ [Path.separator]) =
      origin workingDirectory (start ++ Path.separator :: rest) := by
  unfold origin Path.isAbsolute
  cases start <;> rfl

theorem destination_append_separator_eq {workingDirectory : Location} (start : Text) :
    destination workingDirectory (start ++ [Path.separator]) =
      (Text.split Path.separator start).foldl walk
        (origin workingDirectory (start ++ [Path.separator])) := by
  unfold destination
  rw [Text.split_append_cons, List.foldl_append]
  exact walk_of_idle (.inl rfl)

theorem destination_append_separator {workingDirectory : Location} (hp : p ≠ []) :
    destination workingDirectory (p ++ [Path.separator]) = destination workingDirectory p := by
  have horigin : origin workingDirectory (p ++ [Path.separator]) = origin workingDirectory p := by
    unfold origin Path.isAbsolute
    cases p with
    | nil => exact absurd rfl hp
    | cons => rfl
  rw [destination_append_separator_eq, horigin]
  rfl

theorem destination_dropEndWhile {workingDirectory : Location}
    (h : Text.dropEndWhile (· = Path.separator) p ≠ []) :
    destination workingDirectory (Text.dropEndWhile (· = Path.separator) p) =
      destination workingDirectory p := by
  induction p using List.reverseRecOn with
  | nil => rfl
  | append_singleton p b ih =>
    by_cases hb : b = Path.separator
    . rw [Text.dropEndWhile_append_pos (by simpa using hb)] at h ⊢
      have hp : p ≠ [] := by
        rintro rfl
        exact h rfl
      rw [ih h, hb, destination_append_separator hp]
    . rw [Text.dropEndWhile_append_neg (by simpa using hb)]

structure Made (fs : FileSystem) (places : List Location) (after : FileSystem) : Prop where
  workingDirectory : after.workingDirectory = fs.workingDirectory
  unreadable : after.unreadable = fs.unreadable
  get? : ∀ l, after.get? l =
    if l ∈ places ∧ fs.get? l = none then some .directory else fs.get? l

namespace Made

variable {places : List Location}

theorem of_forall_ne_none (h : ∀ l ∈ places, fs.get? l ≠ none) : Made fs places fs where
  workingDirectory := rfl
  unreadable := rfl
  get? := by
    intro l
    rw [if_neg]
    rintro ⟨hmem, hnone⟩
    exact h l hmem hnone

theorem of_makeDirectory (h : fs.makeDirectory p = .ok after) :
    Made fs [destination fs.workingDirectory p] after := by
  unfold makeDirectory at h
  split at h
  . cases h
  . next l hlocate =>
    obtain ⟨hne, hl, -⟩ := locate_eq_ok_iff.mp hlocate
    rw [destination_dropEndWhile hne] at hl
    split at h
    . cases h
    . next hnone =>
      rw [Option.not_isSome_iff_eq_none] at hnone
      have hroot : l ≠ [] := by
        rintro rfl
        cases hnone
      cases h
      constructor
      . rfl
      . rfl
      . intro k
        rw [get?_put hroot, ← hl]
        by_cases hk : k = l
        . simp [hk, hnone]
        . simp [hk]

theorem append {others : List Location} {last : FileSystem} (h : Made fs places after)
    (hlast : Made after others last) : Made fs (places ++ others) last where
  workingDirectory := by
    rw [hlast.workingDirectory, h.workingDirectory]
  unreadable := by
    rw [hlast.unreadable, h.unreadable]
  get? := by
    intro l
    rw [hlast.get?, h.get?]
    by_cases hnone : fs.get? l = none
    . by_cases hplace : l ∈ places
      . simp [hnone, hplace]
      . simp [hnone, hplace]
    . simp [hnone]

end Made

theorem get?_destination_of_find {e : Entry} (h : fs.find p = .ok e) :
    fs.get? (destination fs.workingDirectory p) = some e := by
  obtain ⟨l, hlocate, hget⟩ := find_eq_ok_iff.mp h
  rw [← (locate_eq_ok_iff.mp hlocate).2.1]
  exact hget

theorem Made.of_ensureDirectory {refusal : Option FileError}
    (h : fs.ensureDirectory p refusal = .ok after) :
    Made fs [destination fs.workingDirectory p] after := by
  unfold ensureDirectory at h
  split at h
  . cases h
  . split at h
    . next hdirectory =>
      cases h
      unfold isDirectory at hdirectory
      split at hdirectory
      . next hfind =>
        apply of_forall_ne_none
        rw [List.forall_mem_singleton, get?_destination_of_find hfind]
        simp
      . cases hdirectory
    . exact of_makeDirectory h

theorem Made.exists_ensureDirectories (refuses? : Text → Option FileError) (fs : FileSystem)
    (paths : List Text) :
    ∃ done, done <+: paths
      ∧ Made fs (done.map (destination fs.workingDirectory)) (ensureDirectories refuses? fs paths).1
      ∧ ((ensureDirectories refuses? fs paths).2 = none → done = paths) := by
  induction paths generalizing fs with
  | nil =>
    refine ⟨[], List.prefix_rfl, ?_, fun _ => rfl⟩
    apply of_forall_ne_none
    simp
  | cons p paths ih =>
    rw [ensureDirectories]
    split
    . refine ⟨[], List.nil_prefix, ?_, by simp⟩
      apply of_forall_ne_none
      simp
    . next next hfirst =>
      have hmade := of_ensureDirectory hfirst
      obtain ⟨done, hdone, hrest, hall⟩ := ih next
      rw [hmade.workingDirectory] at hrest
      refine ⟨p :: done, List.cons_prefix_cons.mpr ⟨rfl, hdone⟩, hmade.append hrest, ?_⟩
      intro hnone
      rw [hall hnone]

theorem exists_of_mem_waypoints {q : Text} (h : q ∈ waypoints p) :
    ∃ start rest, q = start ++ [Path.separator] ∧ p = start ++ Path.separator :: rest := by
  have hgo : ∀ before t : Text, q ∈ waypoints.go before t →
      ∃ start rest, q = before ++ start ++ [Path.separator] ∧ t = start ++ Path.separator :: rest := by
    intro before t
    induction t generalizing before with
    | nil => simp [waypoints.go]
    | cons b t ih =>
      intro hmem
      rw [waypoints.go] at hmem
      have hlater : q ∈ waypoints.go (before ++ [b]) t →
          ∃ start rest, q = before ++ start ++ [Path.separator]
            ∧ b :: t = start ++ Path.separator :: rest := by
        intro hmem
        obtain ⟨start, rest, hq, ht⟩ := ih (before ++ [b]) hmem
        exact ⟨b :: start, rest, by simp [hq], by simp [ht]⟩
      split at hmem
      . next hb =>
        rcases List.mem_cons.mp hmem with hq | hmem
        . exact ⟨[], t, by simp [hq, hb.1], by simp [hb.1]⟩
        . exact hlater hmem
      . exact hlater hmem
  simpa using hgo [] p h

theorem mem_trail_split_iff {d workingDirectory : Location} :
    d ∈ trail (origin workingDirectory p) (Text.split Path.separator p)
      ↔ d ∈ onTheWay workingDirectory p ∨ d = destination workingDirectory p := by
  have hsplit := List.dropLast_concat_getLast (Text.split_ne_nil Path.separator p)
  unfold onTheWay destination
  rw [← hsplit, trail_concat, List.mem_append, List.mem_singleton, List.dropLast_concat]

theorem destination_mem_trail {q : Text} {workingDirectory : Location} (h : q ∈ waypoints p ++ [p]) :
    destination workingDirectory q ∈
      trail (origin workingDirectory p) (Text.split Path.separator p) := by
  rcases List.mem_append.mp h with h | h
  . obtain ⟨start, rest, rfl, rfl⟩ := exists_of_mem_waypoints h
    rw [destination_append_separator_eq, origin_append_separator start rest, Text.split_append_cons]
    apply mem_trail_of_isPrefix
    apply List.prefix_append
  . rw [List.mem_singleton] at h
    rw [h, mem_trail_split_iff]
    exact .inr rfl

theorem Made.exists_makeDirectories (refuses? : Text → Option FileError) (fs : FileSystem) (p : Text) :
    ∃ done, done <+: waypoints p ++ [p]
      ∧ Made fs (done.map (destination fs.workingDirectory)) (fs.makeDirectories p refuses?).1
      ∧ ((fs.makeDirectories p refuses?).2 = none → done = waypoints p ++ [p]) := by
  unfold makeDirectories
  split
  -- The way to a directory that is found consists of directories.
  . next hfind =>
    refine ⟨_, List.prefix_rfl, ?_, fun _ => rfl⟩
    obtain ⟨l, hlocate, hl⟩ := find_eq_ok_iff.mp hfind
    obtain ⟨-, hdestination, hway⟩ := locate_eq_ok_iff.mp hlocate
    apply of_forall_ne_none
    intro d hd
    obtain ⟨q, hq, rfl⟩ := List.mem_map.mp hd
    rcases mem_trail_split_iff.mp (destination_mem_trail hq) with hmem | hend
    . rw [hway _ hmem]
      simp
    . rw [hend, ← hdestination, hl]
      simp
  . refine ⟨[], List.nil_prefix, ?_, by simp⟩
    apply of_forall_ne_none
    simp
  . apply exists_ensureDirectories

/--
A file system as its look-ups show it, with a file put where the path leads and with directories put
where they are missing on the way.
-/
def place (workingDirectory : Location) (files : Location → Option Entry) (p : Text)
    (contents : Contents) (l : Location) : Option Entry :=
  if l = destination workingDirectory p then
    some (.file contents)
  else if l ∈ onTheWay workingDirectory p ∧ files l = none then
    some .directory
  else
    files l

structure Written (fs : FileSystem) (p : Text) (contents : Contents) (after : FileSystem) : Prop where
  workingDirectory : after.workingDirectory = fs.workingDirectory
  unreadable : after.unreadable = fs.unreadable
  get? : after.get? = place fs.workingDirectory fs.get? p contents
  path : p ≠ []
  way : ∀ d ∈ onTheWay fs.workingDirectory p, after.get? d = some .directory
  kept : ∀ l, fs.get? l = some .directory → after.get? l = some .directory

theorem locateForWriting_eq_ok_iff :
    fs.locateForWriting p = .ok l
      ↔ p.getLast? ≠ some Path.separator ∧ fs.locate p = .ok l ∧ fs.get? l ≠ some .directory := by
  unfold locateForWriting
  by_cases hlast : p.getLast? = some Path.separator
  . cases fs.locate (Text.dropEndWhile (· = Path.separator) p) with
    | error fault => simp [hlast, bind, Except.bind]
    | ok place => simp [hlast, bind, Except.bind]
  . have hself : Text.dropEndWhile (· = Path.separator) p = p := by
      apply Text.dropEndWhile_eq_self
      rintro b hb
      simpa using fun h : b = Path.separator => hlast (h ▸ hb)
    rw [hself]
    cases fs.locate p with
    | error fault => simp [bind, Except.bind]
    | ok place =>
      by_cases hfree : fs.get? place = some .directory
      . have hne : place = l → fs.get? l = some .directory := fun h => h ▸ hfree
        simpa [bind, Except.bind, hlast, hfree] using hne
      . have hne : place = l → fs.get? l ≠ some .directory := fun h => h ▸ hfree
        simpa [bind, Except.bind, hlast, hfree] using hne

theorem writeFile_eq_ok_iff {contents : Contents} {refusal : Option FileError} :
    fs.writeFile p contents refusal = .ok after
      ↔ refusal = none ∧ ∃ l, fs.locateForWriting p = .ok l ∧ after = fs.put l (.file contents) := by
  unfold writeFile
  cases refusal with
  | some e => simp
  | none =>
    cases fs.locateForWriting p with
    | error fault => simp
    | ok l => simp [eq_comm]

theorem Written.of_writeFile {made : FileSystem} {contents : Contents}
    {refuses? : Text → Option FileError} {refusal : Option FileError}
    (hmade : fs.makeDirectories (Path.parent p) refuses? = (made, none))
    (hwrite : made.writeFile p contents refusal = .ok after) : Written fs p contents after := by
  obtain ⟨done, -, hdirs, hall⟩ := Made.exists_makeDirectories refuses? fs (Path.parent p)
  rw [hmade] at hdirs hall
  obtain rfl := hall rfl
  obtain ⟨-, l, hlocate, rfl⟩ := writeFile_eq_ok_iff.mp hwrite
  obtain ⟨-, hlocate, hfree⟩ := locateForWriting_eq_ok_iff.mp hlocate
  obtain ⟨hp, hl, hway⟩ := locate_eq_ok_iff.mp hlocate
  rw [hdirs.workingDirectory] at hl hway
  have hroot := ne_nil_of_get?_ne hfree
  -- Making the directories only adds what is missing on the way to the file.
  have hmissing : ∀ k, made.get? k =
      if k ∈ onTheWay fs.workingDirectory p ∧ fs.get? k = none then
        some .directory
      else
        fs.get? k := by
    intro k
    by_cases hnone : fs.get? k = none
    . by_cases hmem : k ∈ onTheWay fs.workingDirectory p
      . rw [hway k hmem, if_pos ⟨hmem, hnone⟩]
      . rw [if_neg (fun h => hmem h.1), hdirs.get?, if_neg]
        rintro ⟨hplace, -⟩
        obtain ⟨q, hq, rfl⟩ := List.mem_map.mp hplace
        exact hmem (mem_onTheWay_of_mem_trail_parent (destination_mem_trail hq))
    . rw [if_neg (fun h => hnone h.2), hdirs.get?, if_neg (fun h => hnone h.2)]
  constructor
  . exact hdirs.workingDirectory
  . exact hdirs.unreadable
  . funext k
    rw [get?_put hroot, hmissing, place, ← hl]
  . exact hp
  . intro d hd
    rw [get?_put hroot, if_neg, hway d hd]
    rintro rfl
    exact hfree (hway d hd)
  . intro k hk
    have hkept : made.get? k = some .directory := by
      rw [hmissing, if_neg, hk]
      simp [hk]
    rw [get?_put hroot, if_neg, hkept]
    rintro rfl
    exact hfree hkept

theorem find_eq_ok_iff_destination {e : Entry} :
    fs.find p = .ok e
      ↔ p ≠ [] ∧ (∀ d ∈ onTheWay fs.workingDirectory p, fs.get? d = some .directory)
        ∧ fs.get? (destination fs.workingDirectory p) = some e := by
  simp only [find_eq_ok_iff, locate_eq_ok_iff]
  constructor
  . rintro ⟨_, ⟨hp, rfl, hway⟩, hget⟩
    exact ⟨hp, hway, hget⟩
  . rintro ⟨hp, hway, hget⟩
    exact ⟨_, ⟨hp, rfl, hway⟩, hget⟩

theorem readFile_eq_ok_iff {t : Text} :
    fs.readFile p = .ok t
      ↔ (∃ contents, fs.find p = .ok (.file contents) ∧ contents.bytes = t)
        ∧ fs.unreadable.lookup (destination fs.workingDirectory p) = none := by
  simp only [find_eq_ok_iff]
  unfold readFile
  cases hlocate : fs.locate p with
  | error fault => simp
  | ok l =>
    rw [← (locate_eq_ok_iff.mp hlocate).2.1]
    simp only [Except.ok.injEq, exists_eq_left']
    cases fs.get? l with
    | none => simp
    | some e =>
      cases e with
      | directory => simp
      | file contents => cases fs.unreadable.lookup l <;> simp

namespace Written

variable {contents : Contents}

theorem find (h : Written fs p contents after) : after.find p = .ok (.file contents) := by
  rw [find_eq_ok_iff_destination, h.workingDirectory]
  refine ⟨h.path, h.way, ?_⟩
  rw [h.get?, place, if_pos rfl]

theorem get?_of_ne {e : Entry} (h : Written fs p contents after) (he : fs.get? l = some e)
    (hne : destination fs.workingDirectory p ≠ l) : after.get? l = some e := by
  rw [h.get?, place, if_neg (Ne.symm hne), if_neg (by simp [he]), he]

end Written

end FileSystem

end Commentary
