import Commentary.Manifest.Read
import Commentary.Proofs.FileSystem.Walk

/-!
This module contains how the paths of a manifest are resolved. The root of a manifest is resolved first,
against the directory of its file, and a path of it later, against that root. Each time the result is
written in the shortest way. Steps up do the same to a beginning that has been shortened as to the
beginning itself, so the result is that of resolving all at once.
-/

namespace Commentary

namespace Path

variable {absolute : Bool} {stack : List Text} {p q : Text}

theorem parts_append_separator (p q : Text) :
    parts (p ++ [separator] ++ q) = parts p ++ parts q := by
  unfold parts
  rw [List.append_assoc, List.singleton_append, Text.split_append_cons, List.filter_append]

theorem isAbsolute_append (hp : p ≠ []) (q : Text) : isAbsolute (p ++ q) = isAbsolute p := by
  cases p with
  | nil => exact absurd rfl hp
  | cons => rfl

def reduced (p : Text) : List Text :=
  (parts p).foldl (push (isAbsolute p)) []

theorem clean_congr (habsolute : isAbsolute p = isAbsolute q) (hreduced : reduced p = reduced q) :
    clean p = clean q := by
  unfold clean
  unfold reduced at hreduced
  dsimp only
  rw [hreduced, habsolute]

theorem foldl_push_of_cons {last : Text} {rest : List Text} (hlast : last ≠ above)
    (h : (last :: rest).reverse.foldl (push absolute) [] = last :: rest) :
    rest.reverse.foldl (push absolute) [] = rest := by
  rw [List.reverse_cons, List.foldl_append, List.foldl_cons, List.foldl_nil] at h
  unfold push at h
  rw [if_pos hlast] at h
  exact (List.cons.inj h).2

theorem foldl_push_push (h : stack.reverse.foldl (push absolute) [] = stack) (part : Text) :
    (push absolute stack part).reverse.foldl (push absolute) [] = push absolute stack part := by
  have hpush : push absolute stack part = part :: stack →
      (push absolute stack part).reverse.foldl (push absolute) [] = push absolute stack part := by
    intro hcons
    rw [hcons, List.reverse_cons, List.foldl_append, h, List.foldl_cons, List.foldl_nil, hcons]
  by_cases hpart : part = above
  . subst hpart
    cases stack with
    | nil =>
      cases absolute with
      | true => rfl
      | false => rfl
    | cons last rest =>
      by_cases hlast : last = above
      . apply hpush
        rw [hlast]
        rfl
      . have hup : push absolute (last :: rest) above = rest := by
          unfold push
          rw [if_neg (by simp)]
          exact if_neg hlast
        rw [hup]
        exact foldl_push_of_cons hlast h
  . apply hpush
    exact if_pos hpart

theorem foldl_push_reverse (absolute : Bool) (pieces : List Text) :
    (pieces.foldl (push absolute) []).reverse.foldl (push absolute) [] =
      pieces.foldl (push absolute) [] := by
  induction pieces using List.reverseRecOn with
  | nil => rfl
  | append_singleton pieces part ih =>
    rw [List.foldl_append]
    exact foldl_push_push ih part

theorem reduced_clean (p : Text) : reduced (clean p) = reduced p := by
  unfold reduced
  rw [parts_clean, isAbsolute_clean, foldl_push_reverse]

theorem clean_clean (p : Text) : clean (clean p) = clean p := by
  apply clean_congr
  . apply isAbsolute_clean
  . apply reduced_clean

theorem reduced_append (hp : p ≠ []) (q : Text) :
    reduced (p ++ [separator] ++ q) = (parts q).foldl (push (isAbsolute p)) (reduced p) := by
  unfold reduced
  rw [parts_append_separator, List.append_assoc, isAbsolute_append hp, List.foldl_append]

theorem clean_clean_append (hp : p ≠ []) (q : Text) :
    clean (clean p ++ [separator] ++ q) = clean (p ++ [separator] ++ q) := by
  -- A beginning may be shortened before the rest of a path is added to it.
  apply clean_congr
  . rw [List.append_assoc, List.append_assoc, isAbsolute_append (clean_ne_nil p), isAbsolute_append hp,
      isAbsolute_clean]
  . rw [reduced_append (clean_ne_nil p), reduced_append hp, reduced_clean, isAbsolute_clean]

theorem isAbsolute_parent (p : Text) : isAbsolute (parent p) = isAbsolute p := by
  unfold parent
  rw [isAbsolute_clean, FileSystem.isAbsolute_dropEndWhile]

end Path

namespace Manifest

variable {fs : FileSystem} {m raw : Manifest} {f t p : Text}

theorem load_eq_ok {yaml : Yaml.Loader} (hread : fs.readFile f = .ok t)
    (hparse : parse t yaml = .ok raw) :
    load fs f yaml =
      .ok (if Path.isAbsolute raw.root then
        raw
      else
        { raw with root := Path.join (Path.parent f) raw.root }) := by
  unfold load
  rw [hread]
  change ((parse t yaml).mapError _ >>= _) = _
  rw [hparse]
  rfl

theorem path_eq_clean (hroot : m.root ≠ []) (hp : p ≠ []) (hrelative : Path.isAbsolute p = false) :
    m.path p = Path.clean (m.root ++ [Path.separator] ++ p) := by
  unfold path Path.join
  rw [if_neg (by simp [hp, hrelative]), if_neg hroot]

theorem path_of_isAbsolute (h : Path.isAbsolute p = true) : m.path p = p := by
  unfold path
  rw [if_pos (.inr h)]

theorem path_path (hroot : Path.isAbsolute m.root = true) (p : Text) : m.path (m.path p) = m.path p := by
  by_cases hp : p = []
  . subst hp
    rfl
  . cases hrelative : Path.isAbsolute p with
    | true => rw [path_of_isAbsolute hrelative, path_of_isAbsolute hrelative]
    | false =>
      have hne : m.root ≠ [] := by
        intro hnil
        rw [hnil] at hroot
        cases hroot
      apply path_of_isAbsolute
      rw [path_eq_clean hne hp hrelative, Path.isAbsolute_clean, List.append_assoc,
        Path.isAbsolute_append hne, hroot]

/--
A manifest whose file can be read and describes one can be loaded. A relative path `p` of it then stands for
the shortest way to write the directory of the file, the root as the file has it, and `p` below one another,
or only the latter two if that root is absolute. It cannot be written shorter, it leads to the same place,
and it is absolute exactly if what it begins with is.
-/
theorem load_resolves_at_once (yaml : Yaml.Loader) (fs : FileSystem) (f t : Text) (raw : Manifest)
    (hread : fs.readFile f = .ok t) (hparse : parse t yaml = .ok raw) :
    ∃ m, load fs f yaml = .ok m
      ∧ (∀ p, p ≠ [] → Path.isAbsolute p = false →
          (Path.isAbsolute raw.root = false →
            m.path p =
                Path.clean
                  (Path.parent f ++ [Path.separator] ++ raw.root ++ [Path.separator] ++ p)
              ∧ (∀ workingDirectory, FileSystem.destination workingDirectory (m.path p) =
                  FileSystem.destination workingDirectory
                    (Path.parent f ++ [Path.separator] ++ raw.root ++ [Path.separator] ++ p))
              ∧ Path.isAbsolute (m.path p) = Path.isAbsolute f)
            ∧ (Path.isAbsolute raw.root = true →
              m.path p = Path.clean (raw.root ++ [Path.separator] ++ p))
            ∧ Path.clean (m.path p) = m.path p)
      ∧ (Path.isAbsolute raw.root = true → ∀ p, m.path (m.path p) = m.path p) := by
  refine ⟨_, load_eq_ok hread hparse, ?_⟩
  cases hroot : Path.isAbsolute raw.root with
  | true =>
    have hne : raw.root ≠ [] := by
      intro hnil
      rw [hnil] at hroot
      cases hroot
    rw [if_pos rfl]
    refine ⟨?_, fun _ => path_path hroot⟩
    intro p hp hrelative
    rw [path_eq_clean hne hp hrelative, Path.clean_clean]
    simp
  | false =>
    have hparent : Path.parent f ≠ [] := Path.clean_ne_nil _
    have hjoin : Path.join (Path.parent f) raw.root =
        Path.clean (Path.parent f ++ [Path.separator] ++ raw.root) := by
      unfold Path.join
      rw [if_neg hparent]
    rw [if_neg Bool.false_ne_true, hjoin]
    refine ⟨?_, fun hfalse => absurd hfalse Bool.false_ne_true⟩
    intro p hp hrelative
    rw [path_eq_clean (Path.clean_ne_nil _) hp hrelative, Path.clean_clean_append (by simp [hparent]),
      Path.clean_clean, Path.isAbsolute_clean]
    refine ⟨fun _ => ⟨rfl, fun _ => FileSystem.destination_clean _ _, ?_⟩, ?_, rfl⟩
    . rw [List.append_assoc, List.append_assoc, List.append_assoc, Path.isAbsolute_append hparent,
        Path.isAbsolute_parent]
    . intro hfalse
      cases hfalse

def twoRoots : FileSystem where
  workingDirectory := ["work"]
  entries :=
    [(["work"], .directory),
     (["work", "conf"], .directory),
     (["work", "conf", "m.yaml"],
      .file (.text "functions: \x7bsource: f.rs, output: f.md\x7d\nroot: ../src//.\n")),
     (["m.yaml"], .file (.text "functions: \x7bsource: f.rs, output: f.md\x7d\nroot: /srv//docs/..\n"))]

theorem twoRoots_resolves_at_once :
    (∃ m, load twoRoots "conf/./m.yaml" = .ok m
        ∧ m.path ".././..//f.rs" = Text.ofString "../f.rs"
        ∧ Path.isAbsolute (m.path ".././..//f.rs") = false)
      ∧ ∃ m, load twoRoots "/m.yaml" = .ok m
          ∧ m.path "../../f.rs" = Text.ofString "/f.rs"
          ∧ m.path (m.path "../../f.rs") = m.path "../../f.rs" := by
  constructor
  . obtain ⟨m, hload, hpath, -⟩ := load_resolves_at_once Yaml.read? twoRoots "conf/./m.yaml"
      "functions: \x7bsource: f.rs, output: f.md\x7d\nroot: ../src//.\n"
      { functions := some { source := "f.rs", output := "f.md" }, root := "../src//." }
      (by decide +kernel) (by decide +kernel)
    obtain ⟨hclean, -, habsolute⟩ := (hpath ".././..//f.rs" (by decide) (by decide)).1 (by decide)
    refine ⟨m, hload, ?_, ?_⟩
    . rw [hclean]
      decide +kernel
    . rw [habsolute]
      decide
  . obtain ⟨m, hload, hpath, hagain⟩ := load_resolves_at_once Yaml.read? twoRoots "/m.yaml"
      "functions: \x7bsource: f.rs, output: f.md\x7d\nroot: /srv//docs/..\n"
      { functions := some { source := "f.rs", output := "f.md" }, root := "/srv//docs/.." }
      (by decide +kernel) (by decide +kernel)
    have hclean := (hpath "../../f.rs" (by decide) (by decide)).2.1 (by decide)
    refine ⟨m, hload, ?_, hagain (by decide) _⟩
    rw [hclean]
    decide +kernel

end Manifest

end Commentary
