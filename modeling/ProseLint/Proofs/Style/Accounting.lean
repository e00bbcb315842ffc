/-
Every rule that a loader comes to is accounted for. What a configuration makes a loader come to is a list
of encounters, rules and requests that cannot be met (`encounters`); each has one fate, a check in the
registry or an issue (`fates`). `Loader.resolve_accounted`: the registry and the issues are these fates,
in order, and of the rules with one name that load the first is registered.
-/
import Mathlib.Data.List.Forall2
import Mathlib.Data.List.Induction
import ProseLint.Proofs.CheckName
import ProseLint.Proofs.Files.Listing
import ProseLint.Proofs.Registry
import ProseLint.Proofs.Rule.Making
import ProseLint.Style.Loader

namespace ProseLint

/-! ## Rules load to checks of their names -/

theorem Definition.name_of_ofRecord {name : CheckName} {r : RuleRecord} {d : Definition}
    (h : ofRecord name r = .ok d) : d.name = name := by
  unfold ofRecord at h
  split at h
  · cases h
  · obtain rfl := Except.ok.inj h
    rfl

theorem Definition.name_of_ofFile {fs : Files} {name : CheckName} {path : String} {d : Definition}
    (h : ofFile fs name path = .ok d) : d.name = name := by
  unfold ofFile at h
  split at h
  · cases h
  · unfold ofToml at h
    split at h
    · cases h
    · exact name_of_ofRecord h

theorem Loader.name_of_checkOfFile {fs : Files} {stylesPath : Option String} {name : CheckName} {path : String}
    {c : Check} (h : checkOfFile fs stylesPath name path = .ok c) : c.name = name := by
  unfold checkOfFile at h
  split at h
  · cases h
  · rename_i d hd
    rw [(Definition.makes_of_compile h).1, Definition.name_of_ofFile hd]

theorem BuiltinStyle.new?_of_check {rule : String} {record : RuleRecord} {c : Check}
    (h : check rule record = .ok c) : CheckName.new? name rule = some c.name := by
  unfold check at h
  split at h
  · cases h
  · rename_i n hn
    split at h
    · cases h
    · rename_i d hd
      rw [hn, (Definition.makes_of_compile h).1, Definition.name_of_ofRecord hd]

/-! ## Encounters -/

/-- A rule that a loader comes to: what an issue of it names, the name it derives, if it derives one, and
what it loads to when that name is free. -/
structure Candidate where
  source : String
  name? : Option CheckName
  check : Except RuleError Check
  named : ∀ c, check = .ok c → name? = some c.name

namespace Candidate

def ofBuiltin (r : String × RuleRecord) : Candidate where
  source := BuiltinStyle.name ++ "." ++ r.1
  name? := CheckName.new? BuiltinStyle.name r.1
  check := BuiltinStyle.check r.1 r.2
  named _ h := BuiltinStyle.new?_of_check h

/-- What the file of a rule of a style loads to. -/
def loadsTo (fs : Files) (stylesPath : Option String) (style rule path : String) : Except RuleError Check :=
  match CheckName.new? style rule with
  | none => .error (.invalidDefinition (.badName (style ++ "." ++ rule)))
  | some name => Loader.checkOfFile fs stylesPath name path

theorem named_of_loadsTo {fs : Files} {stylesPath : Option String} {style rule path : String} {c : Check}
    (h : loadsTo fs stylesPath style rule path = .ok c) : CheckName.new? style rule = some c.name := by
  unfold loadsTo at h
  split at h
  · cases h
  · rename_i name hname
    rw [hname, Loader.name_of_checkOfFile h]

def ofFile (fs : Files) (stylesPath : Option String) (style rule path : String) : Candidate where
  source := path
  name? := CheckName.new? style rule
  check := loadsTo fs stylesPath style rule path
  named _ h := named_of_loadsTo h

end Candidate

/-- Something that a loader comes to: a rule, or a request that cannot be met. -/
inductive Encounter where
  | rule (r : Candidate)
  | unmet (issue : LoadIssue)

namespace Encounter

def loads? : Encounter → Option Check
  | rule r => r.check.toOption
  | unmet _ => none

def loadedName? (e : Encounter) : Option String := e.loads?.map (·.name.full)

end Encounter

theorem Encounter.name?_of_loads? {r : Candidate} {c : Check} (h : (rule r).loads? = some c) :
    r.name? = some c.name := by
  refine r.named c ?_
  cases hr : r.check with
  | error fault => simp [loads?, hr, Except.toOption] at h
  | ok c' => simpa [loads?, hr, Except.toOption] using h

/-- A rule that is built in loads under its own name only. -/
theorem Encounter.eq_of_loadedName?_ofBuiltin {r : String × RuleRecord} {name : String}
    (h : (rule (.ofBuiltin r)).loadedName? = some name) : name = BuiltinStyle.name ++ "." ++ r.1 := by
  obtain ⟨c, hc, rfl⟩ := Option.map_eq_some_iff.1 h
  exact CheckName.full_of_new? (name?_of_loads? hc)

def Encounter.loadsAs? (name : String) (e : Encounter) : Option Check :=
  e.loads?.filter (·.name.full == name)

def loadedNames (es : List Encounter) : List String := es.filterMap Encounter.loadedName?

namespace Loader

def ruleFiles (fs : Files) (directory : String) : List String := (fs.fileNames directory).filter isRuleFile

/-- The rules in a directory, in the order of their files' names. -/
def directoryRules (fs : Files) (base style directory : String) : List Encounter :=
  (ruleFiles fs directory).map fun name =>
    .rule (.ofFile fs (some base) style (Path.stem name) (Path.join directory name))

/-- The styles that have been loaded after requests: the one that is built in, and those that have a
directory. -/
def stylesLoaded (fs : Files) (base : String) (requests : List String) : List String :=
  (BuiltinStyle.name :: requests.filter fun s => fs.isDirectory (Path.join base s)).eraseDups

/-- What the request of a style makes a loader come to, after earlier requests. -/
def requestEncounters (fs : Files) (base : String) (earlier : List String) (style : String) : List Encounter :=
  let directory := Path.join base style
  if style ∈ stylesLoaded fs base earlier then []
  else if fs.isDirectory directory then directoryRules fs base style directory
  else [.unmet ⟨directory, .invalidDefinition (.directoryNotFound directory)⟩]

/-- What requests of styles make a loader come to. -/
def requestsEncounters (fs : Files) (base : String) : (earlier requests : List String) → List Encounter
  | _, [] => []
  | earlier, s :: ss => requestEncounters fs base earlier s ++ requestsEncounters fs base (earlier ++ [s]) ss

/-- What a listed check makes a loader come to when some styles have been loaded. -/
def listedEncounters (fs : Files) (base : String) (loaded : List String) (check : String) : List Encounter :=
  match CheckName.parse? check with
  | none => [.unmet ⟨check, .invalidDefinition (.badName check)⟩]
  | some name =>
    if name.style ∈ loaded then []
    else [.rule (.ofFile fs (some base) name.style name.rule (ownPath base name))]

/-- All that a configuration makes a loader come to, in order. -/
def encounters (fs : Files) (c : Config) : List Encounter :=
  (BuiltinStyle.rules.map fun r => .rule (.ofBuiltin r)) ++
    match c.stylesPath with
    | none => []
    | some base =>
      requestsEncounters fs base [] (requestedStyles c) ++
        c.checks.flatMap (listedEncounters fs base (stylesLoaded fs base (requestedStyles c)))

end Loader

/-! ## Fates -/

/-- What becomes of an encounter. -/
inductive Fate where
  | registered (c : Check)
  | reported (issue : LoadIssue)

namespace Fate

def check? : Fate → Option Check
  | registered c => some c
  | reported _ => none

def issue? : Fate → Option LoadIssue
  | registered _ => none
  | reported issue => some issue

end Fate

def Candidate.fateAlone (r : Candidate) : Fate :=
  match r.check with
  | .ok c => .registered c
  | .error fault => .reported ⟨r.source, fault⟩

def Candidate.fate (taken : List String) (r : Candidate) : Fate :=
  match r.name? with
  | some name => if name.full ∈ taken then .reported ⟨r.source, .duplicate name.full⟩ else r.fateAlone
  | none => r.fateAlone

def Encounter.fate (taken : List String) : Encounter → Fate
  | rule r => r.fate taken
  | unmet issue => .reported issue

/-- What becomes of encounters, each after those before it. A rule that loads takes its name. -/
def fates : (taken : List String) → List Encounter → List Fate
  | _, [] => []
  | taken, e :: es => e.fate taken :: fates (taken ++ e.loadedName?.toList) es

theorem fates_append (taken : List String) (es es' : List Encounter) :
    fates taken (es ++ es') = fates taken es ++ fates (taken ++ loadedNames es) es' := by
  induction es generalizing taken with
  | nil => simp [fates, loadedNames]
  | cons e es ih =>
    have hnames : loadedNames (e :: es) = e.loadedName?.toList ++ loadedNames es := by
      cases he : e.loadedName? <;> simp [loadedNames, he]
    rw [List.cons_append, fates, fates, ih, List.cons_append, hnames, List.append_assoc]

theorem fates_concat (es : List Encounter) (e : Encounter) :
    fates [] (es ++ [e]) = fates [] es ++ [e.fate (loadedNames es)] := by
  rw [fates_append, List.nil_append]
  rfl

theorem loadedNames_concat (es : List Encounter) (e : Encounter) :
    loadedNames (es ++ [e]) = loadedNames es ++ e.loadedName?.toList := by
  rw [loadedNames, List.filterMap_append]
  cases he : e.loadedName? <;> simp [loadedNames, he]

/-- A rule becomes a check when it loads and its name is free. -/
theorem Encounter.check?_fate (taken : List String) (e : Encounter) :
    (e.fate taken).check? = e.loads?.filter fun c => c.name.full ∉ taken := by
  cases e with
  | unmet issue => rfl
  | rule r =>
    simp only [fate, loads?, Candidate.fate, Candidate.fateAlone]
    cases hr : r.check with
    | error fault =>
      cases r.name? with
      | none => rfl
      | some name =>
        simp only
        split <;> rfl
    | ok c =>
      rw [r.named c hr]
      by_cases hc : c.name.full ∈ taken <;> simp [hc, Fate.check?, Except.toOption, Option.filter]

/-- **The names of what is registered are the names that load, each where it loads first.** -/
theorem names_fates (es : List Encounter) :
    ((fates [] es).filterMap Fate.check?).map (·.name.full) = (loadedNames es).eraseDups := by
  induction es using List.reverseRecOn with
  | nil => rfl
  | append_singleton es e ih =>
    rw [fates_concat, loadedNames_concat, List.filterMap_append, List.map_append, ih]
    cases he : e.loads? with
    | none => simp [Encounter.check?_fate, Encounter.loadedName?, he]
    | some c =>
      by_cases hc : c.name.full ∈ loadedNames es <;>
        simp [Encounter.check?_fate, Encounter.loadedName?, he, eraseDups_concat, hc, Option.filter]

/-- **What is registered under a name is the check of the first rule that loads under it.** -/
theorem find?_fates (es : List Encounter) (name : String) :
    ((fates [] es).filterMap Fate.check?).find? (·.name.full == name) = es.findSome? (Encounter.loadsAs? name) := by
  induction es using List.reverseRecOn with
  | nil => rfl
  | append_singleton es e ih =>
    rw [fates_concat, List.filterMap_append, List.find?_append, List.findSome?_append, ih]
    cases hfirst : es.findSome? (Encounter.loadsAs? name) with
    | some c => rfl
    | none =>
      -- no rule before has taken the name
      have hfree : name ∉ loadedNames es := fun hmem => by
        rw [← List.mem_eraseDups, ← names_fates] at hmem
        obtain ⟨c, hc, rfl⟩ := List.mem_map.1 hmem
        exact List.find?_eq_none.1 (ih.trans hfirst) c hc (beq_self_eq_true _)
      rw [Option.none_or, Option.none_or]
      cases he : e.loads? with
      | none => simp [Encounter.check?_fate, Encounter.loadsAs?, he]
      | some c =>
        by_cases hc : c.name.full = name
        · simp [Encounter.check?_fate, Encounter.loadsAs?, he, hc, hfree, Option.filter]
        · by_cases htaken : c.name.full ∈ loadedNames es <;>
            simp [Encounter.check?_fate, Encounter.loadsAs?, he, hc, htaken, Option.filter]

/-! ## Loading -/

namespace Loader

theorem toList_ownFile (name : CheckName) : (ownFile name).toList = name.rule.toList ++ ".toml".toList := by
  rw [ownFile, String.append_assoc, String.toList_append]
  rfl

/-- A rule's own file says the name of the rule. -/
theorem stem_ownFile (name : CheckName) : Path.stem (ownFile name) = name.rule := by
  have hrule : ∀ c ∈ name.rule.toList, decide (c ≠ '.') = true := fun c hc =>
    decide_eq_true fun heq => (isSegment_dot_slash name.rule_isSegment).1 (heq ▸ hc)
  rw [Path.stem, toList_ownFile, List.takeWhile_append_of_pos hrule]
  simp

theorem loadCheck_eq {l : Loader} {base : String} (hpath : l.stylesPath = some base) (fs : Files) (name : CheckName) :
    loadCheck fs l name = loadFile fs l name.style name.rule (ownPath base name) := by
  unfold loadCheck
  rw [hpath, stem_ownFile]

variable {fs : Files} {stylesPath : Option String} {loaded : List String} {es : List Encounter} {l : Loader}

/-- A loader that has come to encounters holds their fates. -/
structure Accounts (stylesPath : Option String) (loaded : List String) (es : List Encounter) (l : Loader) :
    Prop where
  path : l.stylesPath = stylesPath
  styles : l.loadedStyles = loaded
  checks : l.registry.checks = (fates [] es).filterMap Fate.check?
  issues : l.issues = (fates [] es).filterMap Fate.issue?

theorem accounts_fresh (stylesPath : Option String) : (fresh stylesPath).Accounts stylesPath [] [] :=
  ⟨rfl, rfl, rfl, rfl⟩

namespace Accounts

theorem names (h : l.Accounts stylesPath loaded es) : l.registry.names = (loadedNames es).eraseDups := by
  rw [Registry.names, h.checks, names_fates]

theorem get? (h : l.Accounts stylesPath loaded es) (name : String) :
    l.registry.get? name = es.findSome? (Encounter.loadsAs? name) := by
  rw [Registry.get?, h.checks, find?_fates]

theorem contains_iff (h : l.Accounts stylesPath loaded es) {name : String} :
    l.registry.contains name = true ↔ name ∈ loadedNames es := by
  rw [Registry.contains, h.names, List.contains_iff_mem, List.mem_eraseDups]

theorem isLoaded_iff (h : l.Accounts stylesPath loaded es) {style : String} :
    l.isLoaded style = true ↔ style ∈ loaded := by
  rw [isLoaded, h.styles, List.contains_iff_mem]

theorem step (h : l.Accounts stylesPath loaded es) (e : Encounter) {l' : Loader}
    (hpath : l'.stylesPath = l.stylesPath) (hstyles : l'.loadedStyles = l.loadedStyles)
    (hchecks : l'.registry.checks = l.registry.checks ++ (e.fate (loadedNames es)).check?.toList)
    (hissues : l'.issues = l.issues ++ (e.fate (loadedNames es)).issue?.toList) :
    l'.Accounts stylesPath loaded (es ++ [e]) where
  path := hpath.trans h.path
  styles := hstyles.trans h.styles
  checks := by
    rw [hchecks, h.checks, fates_concat, List.filterMap_append]
    cases hc : (e.fate (loadedNames es)).check? <;> simp [hc]
  issues := by
    rw [hissues, h.issues, fates_concat, List.filterMap_append]
    cases hi : (e.fate (loadedNames es)).issue? <;> simp [hi]

theorem addIssue (h : l.Accounts stylesPath loaded es) (source : String) (fault : RuleError) :
    (l.addIssue source fault).Accounts stylesPath loaded (es ++ [.unmet ⟨source, fault⟩]) :=
  h.step _ rfl rfl (List.append_nil _).symm rfl

theorem add (h : l.Accounts stylesPath loaded es) (r : Candidate)
    (hfree : ∀ name ∈ r.name?, name.full ∉ loadedNames es) :
    (l.add r.source r.check).Accounts stylesPath loaded (es ++ [.rule r]) := by
  have hfate : (Encounter.rule r).fate (loadedNames es) = r.fateAlone := by
    simp only [Encounter.fate, Candidate.fate]
    split
    · rename_i name hname
      rw [if_neg (hfree name hname)]
    · rfl
  unfold Loader.add
  split
  · rename_i registry hregistry
    obtain ⟨c, hc, hregister⟩ : ∃ c, r.check = .ok c ∧ l.registry.register c = .ok registry := by
      cases hr : r.check with
      | error fault => simp [hr, Except.bind] at hregistry
      | ok c => exact ⟨c, rfl, by simpa [hr, Except.bind] using hregistry⟩
    refine h.step _ rfl rfl ?_ ?_
    · rw [hfate, Candidate.fateAlone, hc, Registry.checks_register hregister]
      rfl
    · rw [hfate, Candidate.fateAlone, hc]
      exact (List.append_nil _).symm
  · rename_i fault hfault
    have hc : r.check = .error fault := by
      cases hr : r.check with
      | error fault' => simpa [hr, Except.bind] using hfault
      | ok c =>
        -- the registry refuses only names that are taken
        have hregister : l.registry.register c = .error fault := by simpa [hr, Except.bind] using hfault
        have hmem := Registry.register_eq_error_iff.1 ⟨fault, hregister⟩
        rw [h.names, List.mem_eraseDups] at hmem
        exact absurd hmem (hfree c.name (r.named c hr))
    refine h.step _ rfl rfl ?_ ?_
    · rw [hfate, Candidate.fateAlone, hc]
      exact (List.append_nil _).symm
    · rw [hfate, Candidate.fateAlone, hc]
      rfl

theorem addStyle (h : l.Accounts stylesPath loaded es) (style : String) :
    (l.addStyle style).Accounts stylesPath (loaded ++ [style]) es :=
  ⟨h.path, congrArg (· ++ [style]) h.styles, h.checks, h.issues⟩

/-- A rule in a file is not read when its name is taken. -/
theorem loadFile (h : l.Accounts stylesPath loaded es) (fs : Files) (style rule path : String) :
    (Loader.loadFile fs l style rule path).Accounts stylesPath loaded
      (es ++ [.rule (.ofFile fs stylesPath style rule path)]) := by
  unfold Loader.loadFile
  cases hname : CheckName.new? style rule with
  | none =>
    have hfate : (Encounter.rule (.ofFile fs stylesPath style rule path)).fate (loadedNames es) =
        .reported ⟨path, .invalidDefinition (.badName (style ++ "." ++ rule))⟩ := by
      simp only [Encounter.fate, Candidate.fate, Candidate.fateAlone, Candidate.ofFile, Candidate.loadsTo, hname]
    refine h.step _ rfl rfl ?_ ?_ <;> rw [hfate]
    · exact (List.append_nil _).symm
    · rfl
  | some name =>
    simp only
    split
    · rename_i htaken
      have hfate : (Encounter.rule (.ofFile fs stylesPath style rule path)).fate (loadedNames es) =
          .reported ⟨path, .duplicate name.full⟩ := by
        simp only [Encounter.fate, Candidate.fate, Candidate.ofFile, hname, if_pos (h.contains_iff.1 htaken)]
      refine h.step _ rfl rfl ?_ ?_ <;> rw [hfate]
      · exact (List.append_nil _).symm
      · rfl
    · rename_i hfree
      have hcheck : (Candidate.ofFile fs stylesPath style rule path).check =
          checkOfFile fs l.stylesPath name path := by
        simp only [Candidate.ofFile, Candidate.loadsTo, hname, h.path]
      rw [← hcheck]
      refine h.add (.ofFile fs stylesPath style rule path) fun n hn => ?_
      obtain rfl : name = n := Option.some.inj (hname.symm.trans hn)
      exact fun hmem => hfree (h.contains_iff.2 hmem)

/-- Steps one after another make of their encounters what becomes of them. -/
theorem foldl {α : Type} {f : Loader → α → Loader} {met : α → List Encounter}
    (hstep : ∀ {es l} a, l.Accounts stylesPath loaded es → (f l a).Accounts stylesPath loaded (es ++ met a))
    (h : l.Accounts stylesPath loaded es) (as : List α) :
    (as.foldl f l).Accounts stylesPath loaded (es ++ as.flatMap met) := by
  induction as generalizing es l with
  | nil => simpa using h
  | cons a as ih =>
    rw [List.flatMap_cons, ← List.append_assoc]
    exact ih (hstep a h)

theorem loadDirectory {base : String} (h : l.Accounts (some base) loaded es) (fs : Files)
    (style directory : String) :
    (Loader.loadDirectory fs l style directory).Accounts (some base) loaded
      (es ++ directoryRules fs base style directory) := by
  rw [directoryRules, List.map_eq_flatMap]
  exact h.foldl (fun name h => h.loadFile fs style (Path.stem name) (Path.join directory name)) _

theorem stylesLoaded_concat (fs : Files) (base : String) (earlier : List String) (style : String) :
    stylesLoaded fs base (earlier ++ [style]) = stylesLoaded fs base earlier ++
      if style ∈ stylesLoaded fs base earlier then []
      else if fs.isDirectory (Path.join base style) then [style] else [] := by
  unfold stylesLoaded
  rw [List.filter_append, ← List.cons_append]
  cases hdirectory : fs.isDirectory (Path.join base style) with
  | false => simp [hdirectory]
  | true =>
    rw [List.filter_cons_of_pos (by simpa using hdirectory), List.filter_nil, eraseDups_concat]
    simp only [List.mem_eraseDups, if_pos]

theorem loadStyle {base : String} {earlier : List String} (fs : Files)
    (h : l.Accounts (some base) (stylesLoaded fs base earlier) es) (style : String) :
    (Loader.loadStyle fs l style).Accounts (some base) (stylesLoaded fs base (earlier ++ [style]))
      (es ++ requestEncounters fs base earlier style) := by
  rw [stylesLoaded_concat]
  unfold Loader.loadStyle requestEncounters
  by_cases hloaded : style ∈ stylesLoaded fs base earlier
  · rw [if_pos (h.isLoaded_iff.2 hloaded), if_pos hloaded, if_pos hloaded, List.append_nil, List.append_nil]
    exact h
  · rw [if_neg (mt h.isLoaded_iff.1 hloaded), if_neg hloaded, if_neg hloaded, h.path]
    simp only
    split
    · exact (h.loadDirectory fs style (Path.join base style)).addStyle style
    · rw [List.append_nil]
      exact h.addIssue _ _

theorem loadStyles {base : String} (fs : Files) (earlier : List String)
    (h : l.Accounts (some base) (stylesLoaded fs base earlier) es) (requests : List String) :
    (requests.foldl (Loader.loadStyle fs) l).Accounts (some base) (stylesLoaded fs base (earlier ++ requests))
      (es ++ requestsEncounters fs base earlier requests) := by
  induction requests generalizing earlier es l with
  | nil => simpa [requestsEncounters] using h
  | cons s ss ih =>
    rw [List.append_cons, requestsEncounters, ← List.append_assoc]
    exact ih _ (h.loadStyle fs s)

theorem loadListed {base : String} (fs : Files) (h : l.Accounts (some base) loaded es) (check : String) :
    (Loader.loadListed fs l check).Accounts (some base) loaded (es ++ listedEncounters fs base loaded check) := by
  unfold Loader.loadListed listedEncounters
  cases CheckName.parse? check with
  | none => exact h.addIssue _ _
  | some name =>
    simp only
    by_cases hloaded : name.style ∈ loaded
    · rw [if_pos (h.isLoaded_iff.2 hloaded), if_pos hloaded, List.append_nil]
      exact h
    · rw [if_neg (mt h.isLoaded_iff.1 hloaded), if_neg hloaded, loadCheck_eq h.path]
      exact h.loadFile fs _ _ _

/-- A name of a built-in rule is free as long as no rule with its name has come. -/
theorem loadBuiltins (h : l.Accounts stylesPath loaded es) (rs : List (String × RuleRecord))
    (hrs : (rs.map (·.1)).Nodup) (hfree : ∀ r ∈ rs, BuiltinStyle.name ++ "." ++ r.1 ∉ loadedNames es) :
    (rs.foldl (fun l r => l.add (BuiltinStyle.name ++ "." ++ r.1) (BuiltinStyle.check r.1 r.2)) l).Accounts
      stylesPath loaded (es ++ rs.map fun r => .rule (.ofBuiltin r)) := by
  induction rs generalizing es l with
  | nil => simpa using h
  | cons r rs ih =>
    obtain ⟨hr, hrs⟩ := List.nodup_cons.1 hrs
    have hadd := h.add (.ofBuiltin r) fun name (hname : CheckName.new? BuiltinStyle.name r.1 = some name) => by
      rw [CheckName.full_of_new? hname]
      exact hfree r List.mem_cons_self
    rw [List.map_cons, List.append_cons]
    refine ih hadd hrs fun s hs hmem => ?_
    rw [loadedNames_concat, List.mem_append] at hmem
    rcases hmem with hmem | hmem
    · exact hfree s (List.mem_cons_of_mem r hs) hmem
    · have hname := Encounter.eq_of_loadedName?_ofBuiltin (Option.mem_toList.1 hmem)
      exact hr (List.mem_map.2 ⟨s, hs, (String.append_right_inj _).1 hname⟩)

end Accounts

theorem accounts_loadBuiltin (stylesPath : Option String) :
    (fresh stylesPath).loadBuiltin.Accounts stylesPath [BuiltinStyle.name]
      (BuiltinStyle.rules.map fun r => .rule (.ofBuiltin r)) := by
  have hrs : (BuiltinStyle.rules.map (·.1)).Nodup := by decide
  have h := (accounts_fresh stylesPath).loadBuiltins BuiltinStyle.rules hrs fun r _ hmem => nomatch hmem
  unfold loadBuiltin BuiltinStyle.checks
  rw [List.foldl_map]
  exact h.addStyle BuiltinStyle.name

theorem accounts_resolve (fs : Files) (c : Config) :
    (resolve fs c).Accounts c.stylesPath
      (match c.stylesPath with
        | none => [BuiltinStyle.name]
        | some base => stylesLoaded fs base (requestedStyles c))
      (encounters fs c) := by
  have h := accounts_loadBuiltin c.stylesPath
  unfold resolve encounters
  cases hpath : c.stylesPath with
  | none =>
    rw [hpath] at h
    simpa using h
  | some base =>
    rw [hpath] at h
    have hstyles := Accounts.loadStyles fs [] h (requestedStyles c)
    have hchecks := hstyles.foldl (fun check h => h.loadListed fs check) c.checks
    simpa using hchecks

/-- What a rule that is built in loads to under a name of its style. -/
theorem loadsAs?_ofBuiltin (r : String × RuleRecord) (rule : String) :
    (Encounter.rule (.ofBuiltin r)).loadsAs? (BuiltinStyle.name ++ "." ++ rule) =
      if r.1 = rule then (BuiltinStyle.check r.1 r.2).toOption else none := by
  have hfull {c : Check} (h : BuiltinStyle.check r.1 r.2 = .ok c) : c.name.full = BuiltinStyle.name ++ "." ++ r.1 :=
    CheckName.full_of_new? (BuiltinStyle.new?_of_check h)
  simp only [Encounter.loadsAs?, Encounter.loads?, Candidate.ofBuiltin]
  cases hc : BuiltinStyle.check r.1 r.2 with
  | error fault => by_cases hrule : r.1 = rule <;> simp [Except.toOption, hrule]
  | ok c =>
    have hname : c.name.full = BuiltinStyle.name ++ "." ++ rule ↔ r.1 = rule := by
      rw [hfull hc, String.append_right_inj]
    by_cases hrule : r.1 = rule <;> simp [Except.toOption, Option.filter, hname, hrule]

/-- **A rule that is built in is registered, whatever a configuration asks for.** -/
theorem get?_resolve_builtin {rule : String} {record : RuleRecord} {check : Check}
    (hmem : (rule, record) ∈ BuiltinStyle.rules) (hcheck : BuiltinStyle.check rule record = .ok check) (fs : Files)
    (c : Config) : (resolve fs c).registry.get? (BuiltinStyle.name ++ "." ++ rule) = some check := by
  have hbuiltin : (BuiltinStyle.rules.map fun r => Encounter.rule (.ofBuiltin r)).findSome?
      (Encounter.loadsAs? (BuiltinStyle.name ++ "." ++ rule)) = some check := by
    obtain ⟨before, after, hrules⟩ := List.append_of_mem hmem
    have hnodup : (BuiltinStyle.rules.map (·.1)).Nodup := by decide
    rw [hrules, List.map_append, List.nodup_append] at hnodup
    rw [List.findSome?_map, List.findSome?_eq_some_iff]
    refine ⟨before, (rule, record), after, hrules, ?_, fun r hr => ?_⟩
    · rw [Function.comp_apply, loadsAs?_ofBuiltin, if_pos rfl, hcheck]
      rfl
    · have hne : r.1 ≠ rule := hnodup.2.2 _ (List.mem_map_of_mem hr) _ List.mem_cons_self
      rw [Function.comp_apply, loadsAs?_ofBuiltin, if_neg hne]
  rw [(accounts_resolve fs c).get?, encounters, List.findSome?_append, hbuiltin]
  rfl

end Loader

end ProseLint
