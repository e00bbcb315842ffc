/-
Where the script of a rule stands. Its path goes on from the directory for the scripts of its style with
what the rule says, so it resolves to a file in that directory as long as what the rule says is relative
and never leads back out of it (`Definition.script_inside`). Nothing asks for that, and a rule may as well
lead out (`Definition.script_outside`).
-/
import ProseLint.Proofs.Rule.Making
import ProseLint.Proofs.Style.Single

namespace ProseLint

/-! ## Paths that stay in a directory -/

namespace Path

/-- Whether components lead back at most as far as they have led on, and a number of names more. -/
def stays : Nat → List String → Bool
  | _, [] => true
  | depth, part :: parts =>
    if part = "" ∨ part = "." then stays depth parts
    else if part = ".." then
      match depth with
      | 0 => false
      | depth + 1 => stays depth parts
    else stays (depth + 1) parts

/-- Components that stay in a directory resolve to a place in it. -/
theorem resolve_stays (directory rest : List String) {parts : List String} (h : stays rest.length parts = true) :
    ∃ more, resolve (directory ++ rest) parts = directory ++ more := by
  induction parts generalizing rest with
  | nil => exact ⟨rest, rfl⟩
  | cons part parts ih =>
    unfold stays at h
    rw [resolve, List.foldl_cons, enter]
    split
    · rename_i hhere
      rw [if_pos hhere] at h
      exact ih rest h
    · rename_i hhere
      rw [if_neg hhere] at h
      split
      · rename_i hup
        rw [if_pos hup] at h
        cases rest using List.reverseRecOn with
        | nil => cases h
        | append_singleton front last =>
          rw [← List.append_assoc, List.dropLast_concat]
          simp only [List.length_append, List.length_cons, List.length_nil] at h
          exact ih front h
      · rename_i hup
        rw [if_neg hup] at h
        rw [List.append_assoc]
        exact ih (rest ++ [part]) (by rwa [List.length_append])

theorem isPart_scriptsDirectory : IsPart Rule.scriptsDirectory where
  ne_empty := by decide
  ne_here := by decide
  ne_up := by decide
  no_slash := by decide

theorem components_ne_nil (path : String) : components path ≠ [] := fun h =>
  splitSlash_ne_nil _ (List.map_eq_nil_iff.1 h)

/-- A path that goes on with a component starts with the path. -/
theorem exists_join_eq (base : String) {part : String} (h : IsPart part) : ∃ rest, join base part = base ++ rest := by
  rw [join, h.not_absolute]
  simp only [Bool.false_eq_true, if_false]
  split
  · exact ⟨part, rfl⟩
  · exact ⟨"/" ++ part, String.append_assoc⟩

end Path

namespace Definition

open Rule

variable {fs : Files} {base exe : String} {d : Definition}

/-- The path of a script: the path of its style, and what follows it there. -/
theorem scriptPath_eq (base : String) (name : CheckName) (h : Path.isAbsolute exe = false) :
    scriptPath base name.style exe = Path.join base name.style ++ "/" ++ scriptsDirectory ++ "/" ++ exe := by
  have hstyle := isPart_of_isSegment name.style_isSegment
  rw [scriptPath, Path.join_join _ Path.isPart_scriptsDirectory h,
    Path.join_join _ hstyle Path.isPart_scriptsDirectory.not_absolute]

/-- A path that leads somewhere with more after it leads there by itself. -/
theorem locate_of_append {rest : String} {place root : List String} (hne : base ≠ "")
    (h : fs.locate (base ++ rest) = .ok place) (hroot : fs.follow [] (Path.components base) = .ok root) :
    fs.locate base = .ok root := by
  obtain ⟨⟨habsolute, hnul, hsize⟩, -⟩ := Files.locate_eq_ok.1 h
  rw [String.utf8ByteSize_append] at hsize
  rw [String.toList_append, List.mem_append, not_or] at hnul
  rw [Path.isAbsolute_append hne] at habsolute
  exact Files.locate_eq_ok.2 ⟨⟨habsolute, hnul.1, by omega⟩, hroot⟩

/-- **A script leads on from the directory of its style.** -/
theorem locate_scriptPath {name : CheckName} (hexe : Path.isAbsolute exe = false) {place : List String}
    (h : fs.locate (scriptPath base name.style exe) = .ok place) :
    ∃ root, fs.locate base = .ok root ∧ fs.contents? (root ++ [name.style, scriptsDirectory]) = none ∧
      place = Path.resolve (root ++ [name.style, scriptsDirectory]) (Path.components exe) := by
  have hstyle := isPart_of_isSegment name.style_isSegment
  obtain ⟨parts, hparts, hbase⟩ := Path.components_join base hstyle
  obtain ⟨front, hfront⟩ := Path.exists_join_eq base hstyle
  have hpath := scriptPath_eq base name hexe
  obtain ⟨tail, htail⟩ : ∃ tail, scriptPath base name.style exe = Path.join base name.style ++ tail :=
    ⟨"/" ++ (scriptsDirectory ++ ("/" ++ exe)), by rw [hpath]; simp only [String.append_assoc]⟩
  have hne : base ≠ "" := by
    rintro rfl
    have habsolute := (Files.locate_eq_ok.1 h).1.1
    rw [htail, Path.isAbsolute_append (Path.join_ne_empty _ hstyle), Path.join, hstyle.not_absolute] at habsolute
    simp [hstyle.not_absolute] at habsolute
  have hfollow := (Files.locate_eq_ok.1 h).2
  rw [hpath, Path.components_append, Path.components_slash _ _ Path.isPart_scriptsDirectory, hparts, List.append_assoc,
    List.append_assoc] at hfollow
  -- what stands before the style leads to the directory of all styles
  have hroot := Files.follow_append (by simp) hfollow
  rw [hroot] at hfollow
  simp only [List.singleton_append] at hfollow
  rw [Files.follow_cons (by simp) hfollow, Path.enter_part hstyle] at hfollow
  have hmore := Path.components_ne_nil exe
  have hscripts := hfollow
  rw [Files.follow_cons hmore hfollow, Path.enter_part Path.isPart_scriptsDirectory, List.append_assoc] at hfollow
  refine ⟨Path.resolve [] parts, ?_, ?_, Files.follow_eq_ok hfollow⟩
  · rw [htail, hfront, String.append_assoc] at h
    refine locate_of_append hne h ?_
    rcases hbase with hbase | hbase
    · rw [hbase, ← List.append_nil parts, hroot]
      simp [Files.follow]
    · rw [hbase, hroot]
      simp [Files.follow]
  · have hnone := Files.contents?_of_follow Path.isPart_scriptsDirectory hmore hscripts
    rwa [List.append_assoc] at hnone

/-- A script rule that compiles has its script at the path that it says, which leads to a file. -/
theorem script_of_compile {stylesPath : Option String} {runtime : String} {c : Check}
    (h : d.compile stylesPath fs = .ok c) (hkind : d.kind = .script exe runtime) :
    ∃ base place, stylesPath = some base ∧ c.matcher = .script runtime (scriptPath base d.name.style exe) ∧
      fs.locate (scriptPath base d.name.style exe) = .ok place ∧ (fs.contents? place).isSome := by
  obtain ⟨m, hm, rfl⟩ := exists_of_map_ok h
  rw [matcher, hkind] at hm
  simp only [scriptMatcher] at hm
  split at hm
  · cases hm
  · rename_i base
    split at hm
    · rename_i hfile
      rw [Files.isFile] at hfile
      split at hfile
      · rename_i place hplace
        exact ⟨base, place, rfl, (Except.ok.inj hm).symm, hplace, hfile⟩
      · cases hfile
    · cases hm

/-- **The script of a rule is a file in the directory for the scripts of its style**, if what the rule says
is relative and never leads back out of it. -/
theorem script_inside {stylesPath : Option String} {runtime : String} {c : Check}
    (hcompile : d.compile stylesPath fs = .ok c) (hkind : d.kind = .script exe runtime)
    (hexe : Path.isAbsolute exe = false) (hstays : Path.stays 0 (Path.components exe) = true) :
    ∃ base path root rest, stylesPath = some base ∧ c.matcher = .script runtime path ∧ fs.locate base = .ok root ∧
      rest ≠ [] ∧ fs.locate path = .ok (root ++ [d.name.style, scriptsDirectory] ++ rest) ∧
      (fs.contents? (root ++ [d.name.style, scriptsDirectory] ++ rest)).isSome := by
  obtain ⟨base, place, hbase, hmatcher, hplace, hfile⟩ := script_of_compile hcompile hkind
  obtain ⟨root, hroot, hdirectory, hresolve⟩ := locate_scriptPath hexe hplace
  obtain ⟨rest, hrest⟩ := Path.resolve_stays (root ++ [d.name.style, scriptsDirectory]) [] hstays
  rw [List.append_nil, ← hresolve] at hrest
  subst hrest
  refine ⟨base, _, root, rest, hbase, hmatcher, hroot, ?_, hplace, hfile⟩
  rintro rfl
  rw [List.append_nil, hdirectory] at hfile
  cases hfile

def houseName : CheckName := ⟨"House", "Script", by decide +kernel, by decide +kernel⟩

/-- A rule that runs a script with `sh`. -/
def scriptRule (exe : String) : Definition where
  name := houseName
  message := ""
  description := ""
  severity := .suggestion
  scope := "text"
  link := none
  ignoreCase := false
  negate := false
  kind := .script exe "sh"

/-- A style with a script in its directory for scripts, beside a file that is no part of a style. -/
def scriptFiles : Files :=
  ⟨[(["styles", "House", "scripts", "check.sh"], []), (["styles", "secret.sh"], [])],
    [["styles", "House", "scripts", "old"]]⟩

theorem exists_compile_scriptRule {exe : String}
    (h : scriptFiles.isFile (scriptPath "/styles" houseName.style exe) = true) :
    ∃ c, (scriptRule exe).compile (some "/styles") scriptFiles = .ok c ∧
      c.matcher = .script "sh" (scriptPath "/styles" houseName.style exe) := by
  have hm : (scriptRule exe).matcher (some "/styles") scriptFiles =
      .ok (.script "sh" (scriptPath "/styles" houseName.style exe)) := by
    rw [matcher]
    simp only [scriptRule, scriptMatcher, h, if_true]
  exact ⟨_, by rw [compile, hm]; rfl, rfl⟩

/-- A script that goes on to another directory and back stays in that of its style. -/
theorem script_inside_back :
    ∃ c, (scriptRule "old/../check.sh").compile (some "/styles") scriptFiles = .ok c ∧
      (scriptRule "old/../check.sh").kind = .script "old/../check.sh" "sh" ∧
      Path.isAbsolute "old/../check.sh" = false ∧ Path.stays 0 (Path.components "old/../check.sh") = true ∧
      ∃ base path root rest, some "/styles" = some base ∧ c.matcher = .script "sh" path ∧
        scriptFiles.locate base = .ok root ∧ rest ≠ [] ∧
        scriptFiles.locate path = .ok (root ++ ["House", "scripts"] ++ rest) ∧
        (scriptFiles.contents? (root ++ ["House", "scripts"] ++ rest)).isSome := by
  have hfile : scriptFiles.isFile (scriptPath "/styles" houseName.style "old/../check.sh") = true := by decide +kernel
  have hstays : Path.stays 0 (Path.components "old/../check.sh") = true := by decide +kernel
  obtain ⟨c, hc, -⟩ := exists_compile_scriptRule hfile
  exact ⟨c, hc, rfl, by decide +kernel, hstays, script_inside hc rfl (by decide +kernel) hstays⟩

/-- **The script of a rule may stand outside its style.** What leads back far enough leads to any file. -/
theorem script_outside :
    ∃ c path directory place, (scriptRule "../../secret.sh").compile (some "/styles") scriptFiles = .ok c ∧
      c.matcher = .script "sh" path ∧ scriptFiles.locate path = .ok place ∧
      scriptFiles.locate "/styles/House/scripts" = .ok directory ∧ ¬directory <+: place := by
  have hfile : scriptFiles.isFile (scriptPath "/styles" houseName.style "../../secret.sh") = true := by decide +kernel
  obtain ⟨c, hc, hmatcher⟩ := exists_compile_scriptRule hfile
  exact ⟨c, _, ["styles", "House", "scripts"], ["styles", "secret.sh"], hc, hmatcher, by decide +kernel,
    by decide +kernel, by decide⟩

end Definition

end ProseLint
