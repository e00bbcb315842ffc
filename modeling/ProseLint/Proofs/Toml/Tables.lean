/-
What holds of the tables that a document makes. Reading puts values under new keys, opens tables and puts
tables in the place of tables; a property of the entries of a table that these steps keep holds of every
table of a document (`Lasting.of_readEntries?`). The property may say where in the text the entries stand.
-/
import ProseLint.Proofs.Toml.Rest

namespace ProseLint.Toml

namespace Value

/-- A value that later lines may let grow. -/
inductive IsTable : Value → Prop
  | table (form : TableForm) (entries : List (String × Value)) : IsTable (.table form entries)
  | tables (elements : List Value) : IsTable (.tables elements)

/-- The entries of every table in a value have a property. -/
inductive Every (P : List (String × Value) → Prop) : Value → Prop
  | string (s : String) : Every P (.string s)
  | integer (n : Int) : Every P (.integer n)
  | float : Every P .float
  | boolean (b : Bool) : Every P (.boolean b)
  | date (text : String) : Every P (.date text)
  | array {items : List Value} (h : ∀ v ∈ items, Every P v) : Every P (.array items)
  | table {form : TableForm} {entries : List (String × Value)} (own : P entries)
      (h : ∀ e ∈ entries, Every P e.2) : Every P (.table form entries)
  | tables {elements : List Value} (h : ∀ v ∈ elements, Every P v) : Every P (.tables elements)

namespace Every

variable {P Q : List (String × Value) → Prop} {form : TableForm} {entries : List (String × Value)}
  {key : String} {v : Value}

theorem mono (h : v.Every P) (hPQ : ∀ entries, P entries → Q entries) : v.Every Q := by
  induction h with
  | string s => exact .string s
  | integer n => exact .integer n
  | float => exact .float
  | boolean b => exact .boolean b
  | date text => exact .date text
  | array _ ih => exact .array ih
  | table own _ ih => exact .table (hPQ _ own) ih
  | tables _ ih => exact .tables ih

theorem own (h : Every P (.table form entries)) : P entries := by
  cases h with
  | table own _ => exact own

theorem entry (h : Every P (.table form entries)) : ∀ e ∈ entries, e.2.Every P := by
  cases h with
  | table _ h => exact h

theorem lookup (h : Every P (.table form entries)) (hv : entries.lookup key = some v) : v.Every P := by
  obtain ⟨as, bs, rfl, -⟩ := List.lookup_eq_some_iff.1 hv
  exact h.entry (key, v) (by simp)

end Every

theorem not_mem_of_lookup {entries : List (String × Value)} {key : String} (h : entries.lookup key = none) :
    key ∉ entries.map (·.1) := by
  rw [List.lookup_eq_none_iff] at h
  intro hmem
  obtain ⟨e, he, rfl⟩ := List.mem_map.1 hmem
  simpa using h e he

end Value

/-! ## Places in a text -/

/-- At the front of a text stand a key, behind others that dots join it to or none, an equals sign and a
value. -/
def Sets (here : List Char) (key : String) (v : Value) : Prop :=
  ∃ keys more room rest, dottedKey? (maxDepth - 1) here = some (keys, '=' :: more) ∧
    keys.getLast? = some key ∧ value? room (skipBlanks more) = some (v, rest)

/-- An entry that has been put where the text is `here`. What a table or tables will hold may stand
anywhere. -/
def Placed (here : List Char) (key : String) (v : Value) : Prop := v.IsTable ∨ Sets here key v

/-- From one place in a text something is read up to another. -/
structure Passes (text here rest : List Char) : Prop where
  within : here <:+ text
  suffix : rest <:+ here
  ne : rest ≠ here

namespace Passes

variable {text here rest more : List Char} {c : Char}

theorem of_cons (htext : here <:+ text) (hmore : c :: more <:+ here) (hrest : rest <:+ more) :
    Passes text here rest := by
  refine ⟨htext, hrest.trans ((List.suffix_cons c more).trans hmore), ?_⟩
  rintro rfl
  have hlength := Nat.le_trans hmore.length_le hrest.length_le
  exact absurd hlength (Nat.not_succ_le_self _)

end Passes

/-- What a property of the entries of tables has to keep for reading to keep it. It is said of a place in
the text too: what is left to be read. -/
structure Lasting (text : List Char) (P : List Char → List (String × Value) → Prop) : Prop where
  empty {here : List Char} : here <:+ text → P here []
  later {here rest : List Char} {entries : List (String × Value)} :
    P here entries → rest <:+ here → P rest entries
  append {here rest : List Char} {entries : List (String × Value)} {key : String} {v : Value} :
    P here entries → Passes text here rest → key ∉ entries.map (·.1) → Placed here key v →
      P rest (entries ++ [(key, v)])
  replace {here : List Char} {entries : List (String × Value)} {v : Value} (key : String) :
    P here entries → v.IsTable → P here (replace key v entries)

namespace Lasting

open Value

variable {text here rest : List Char} {P : List Char → List (String × Value) → Prop} {form : TableForm}
  {entries : List (String × Value)} {key : String} {v : Value}

theorem every_later (hP : Lasting text P) (h : v.Every (P here)) (hrest : rest <:+ here) : v.Every (P rest) :=
  h.mono fun _ hentries => hP.later hentries hrest

theorem every_empty (hP : Lasting text P) (hhere : here <:+ text) (form : TableForm) :
    (table form []).Every (P here) :=
  .table (hP.empty hhere) fun _ he => absurd he List.not_mem_nil

theorem every_append (hP : Lasting text P) (h : (table form entries).Every (P here))
    (hpasses : Passes text here rest) (hkey : key ∉ entries.map (·.1)) (hplaced : Placed here key v)
    (hv : v.Every (P rest)) : (table form (entries ++ [(key, v)])).Every (P rest) := by
  refine .table (hP.append h.own hpasses hkey hplaced) fun e he => ?_
  rcases List.mem_append.1 he with he | he
  · exact hP.every_later (h.entry e he) hpasses.suffix
  · obtain rfl := List.mem_singleton.1 he
    exact hv

theorem every_replace (hP : Lasting text P) (h : (table form entries).Every (P here)) (key : String)
    (htable : v.IsTable) (hv : v.Every (P here)) (form' : TableForm) :
    (table form' (Toml.replace key v entries)).Every (P here) := by
  refine .table (hP.replace key h.own htable) fun e he => ?_
  obtain ⟨e', he', rfl⟩ := List.mem_map.1 he
  split
  · exact hv
  · exact h.entry e' he'

/-- A table keeps what lasts when it gets a new entry that holds a table or tables. -/
theorem every_new (hP : Lasting text P) (h : (table form entries).Every (P here)) (hpasses : Passes text here rest)
    (hlookup : entries.lookup key = none) (htable : v.IsTable) (hv : v.Every (P rest)) :
    (table form (entries ++ [(key, v)])).IsTable ∧ (table form (entries ++ [(key, v)])).Every (P rest) :=
  ⟨.table _ _, hP.every_append h hpasses (not_mem_of_lookup hlookup) (.inl htable) hv⟩

/-- A table keeps what lasts when what one of its keys holds becomes a table or tables. -/
theorem every_changed (hP : Lasting text P) (h : (table form entries).Every (P here)) (hrest : rest <:+ here)
    (htable : v.IsTable) (hv : v.Every (P rest)) (form' : TableForm) :
    (table form' (Toml.replace key v entries)).IsTable ∧
      (table form' (Toml.replace key v entries)).Every (P rest) :=
  ⟨.table _ _, hP.every_replace (hP.every_later h hrest) key htable hv form'⟩

/-! ## Changes -/

/-- A change at a place of the text makes tables of tables and keeps what holds of all of them. -/
def Carries (P : List Char → List (String × Value) → Prop) (here rest : List Char)
    (change : Value → Option Value) : Prop :=
  ∀ t t' : Value, t.Every (P here) → change t = some t' → t'.IsTable ∧ t'.Every (P rest)

theorem carries_insertNew (hP : Lasting text P) (hpasses : Passes text here rest) (behindDots : Bool)
    (hplaced : Placed here key v) (hv : v.Every (P rest)) : Carries P here rest (insertNew behindDots key v) := by
  intro t t' ht h
  unfold insertNew at h
  split at h
  · split at h
    · split at h
      · cases h
      · rename_i hany
        obtain rfl := Option.some.inj h
        refine ⟨.table _ _, hP.every_append ht hpasses (fun hmem => hany ?_) hplaced hv⟩
        obtain ⟨e, he, heq⟩ := List.mem_map.1 hmem
        exact List.any_eq_true.2 ⟨e, he, by simpa using heq⟩
    · cases h
  · cases h

theorem carries_openTable (hP : Lasting text P) (hpasses : Passes text here rest) (key : String) :
    Carries P here rest (openTable key) := by
  intro t t' ht h
  have hrest := hpasses.suffix.trans hpasses.within
  unfold openTable at h
  split at h
  · split at h
    · rename_i hlookup
      obtain rfl := Option.some.inj h
      exact hP.every_new ht hpasses hlookup (.table _ _) (hP.every_empty hrest _)
    · rename_i hlookup
      obtain rfl := Option.some.inj h
      have hmore := hP.every_later (ht.lookup hlookup) hpasses.suffix
      exact hP.every_changed ht hpasses.suffix (.table _ _) (.table hmore.own hmore.entry) _
    · cases h
  · cases h

theorem carries_openElement (hP : Lasting text P) (hpasses : Passes text here rest) (key : String) :
    Carries P here rest (openElement key) := by
  intro t t' ht h
  have hempty := hP.every_empty (hpasses.suffix.trans hpasses.within) .headed
  unfold openElement at h
  split at h
  · split at h
    · rename_i hlookup
      obtain rfl := Option.some.inj h
      exact hP.every_new ht hpasses hlookup (.tables _) (.tables (List.forall_mem_singleton.2 hempty))
    · rename_i hlookup
      obtain rfl := Option.some.inj h
      cases hP.every_later (ht.lookup hlookup) hpasses.suffix with
      | tables helements =>
        have helements := List.forall_mem_cons.2 ⟨hempty, helements⟩
        exact hP.every_changed ht hpasses.suffix (.tables _) (.tables helements) _
    · cases h
  · cases h

theorem carries_open (hP : Lasting text P) (hpasses : Passes text here rest) (twice : Bool) (key : String) :
    Carries P here rest (if twice then openElement key else openTable key) := by
  cases twice
  · exact hP.carries_openTable hpasses key
  · exact hP.carries_openElement hpasses key

/-- What a change keeps at the end of a path is kept along the path. -/
theorem carries_within (hP : Lasting text P) (hpasses : Passes text here rest) {change : Value → Option Value}
    (hchange : Carries P here rest change) (dotted : Bool) (path : List String) :
    Carries P here rest (within dotted change path) := by
  induction path with
  | nil => exact hchange
  | cons key path ih =>
    intro t t' ht h
    cases t with
    | table form entries =>
      rw [Value.within] at h
      split at h
      · rename_i hlookup
        obtain ⟨made, hmade, h⟩ := Option.bind_eq_some_iff.1 h
        obtain rfl := Option.some.inj h
        obtain ⟨htable, hevery⟩ := ih _ _ (hP.every_empty hpasses.within _) hmade
        exact hP.every_new ht hpasses hlookup htable hevery
      · rename_i last earlier hlookup
        obtain ⟨last', hlast, h⟩ := Option.bind_eq_some_iff.1 h
        obtain rfl := Option.some.inj h
        cases ht.lookup hlookup with
        | tables helements =>
          obtain ⟨hfirst, hearlier⟩ := List.forall_mem_cons.1 helements
          have hevery := (ih _ _ hfirst hlast).2
          have hothers := fun v hv => hP.every_later (hearlier v hv) hpasses.suffix
          exact hP.every_changed ht hpasses.suffix (.tables _)
            (.tables (List.forall_mem_cons.2 ⟨hevery, hothers⟩)) _
      · rename_i hlookup
        split at h
        · cases h
        · obtain ⟨inner, hinner, h⟩ := Option.bind_eq_some_iff.1 h
          obtain rfl := Option.some.inj h
          obtain ⟨htable, hevery⟩ := ih _ _ (ht.lookup hlookup) hinner
          exact hP.every_changed ht hpasses.suffix htable hevery _
      · cases h
    | _ => cases h

theorem carries_withinBraces (hP : Lasting text P) (hpasses : Passes text here rest)
    {change : Value → Option Value} (hchange : Carries P here rest change) (path : List String) :
    Carries P here rest (withinBraces change path) := by
  induction path with
  | nil => exact hchange
  | cons key path ih =>
    intro t t' ht h
    cases t with
    | table form entries =>
      rw [Value.withinBraces] at h
      split at h
      · rename_i hlookup
        obtain ⟨made, hmade, h⟩ := Option.bind_eq_some_iff.1 h
        obtain rfl := Option.some.inj h
        obtain ⟨htable, hevery⟩ := ih _ _ (hP.every_empty hpasses.within _) hmade
        exact hP.every_new ht hpasses hlookup htable hevery
      · rename_i hlookup
        obtain ⟨inner, hinner, h⟩ := Option.bind_eq_some_iff.1 h
        obtain rfl := Option.some.inj h
        obtain ⟨htable, hevery⟩ := ih _ _ (ht.lookup hlookup) hinner
        exact hP.every_changed ht hpasses.suffix htable hevery _
      · cases h
    | _ => cases h

/-! ## Values that are read -/

/-- All tables of the value that comes out, if one does, have a property at what is left. -/
def Yields (P : List Char → List (String × Value) → Prop) (x : Option (Value × List Char)) : Prop :=
  ∀ y, x = some y → y.1.Every (P y.2)

namespace Yields

variable {α : Type} {x : Option α}

theorem none : Yields P none := fun _ h => nomatch h

theorem some (h : v.Every (P rest)) : Yields P (some (v, rest)) := fun _ hy => Option.some.inj hy ▸ h

theorem bind {f : α → Option (Value × List Char)} (h : ∀ a, Yields P (f a)) : Yields P (x >>= f) := by
  intro y hy
  obtain ⟨a, -, hy⟩ := Option.bind_eq_some_iff.1 hy
  exact h a y hy

theorem map {f : α → Value × List Char} (h : ∀ a, (f a).1.Every (P (f a).2)) : Yields P (x.map f) := by
  intro y hy
  obtain ⟨a, -, rfl⟩ := Option.map_eq_some_iff.1 hy
  exact h a

theorem or {x y : Option (Value × List Char)} (hx : Yields P x) (hy : Yields P y) : Yields P (x.or y) := by
  intro z hz
  rcases Option.or_eq_some_iff.1 hz with hz | ⟨-, hz⟩
  · exact hx z hz
  · exact hy z hz

end Yields

/-- Dates, floats and integers hold no tables, whichever way they are read. -/
theorem yields_date? (cs : List Char) : Yields P (date? cs) := by
  unfold date?
  simp only
  split
  · exact .map fun _ => .date _
  · repeat' split
    · exact .some (.date _)
    · exact .map fun _ => .date _
    · exact .some (.date _)
    · exact .some (.date _)

theorem yields_float? (cs : List Char) : Yields P (float? cs) := by
  unfold float?
  simp only
  split
  · exact .some .float
  · exact .some .float
  · repeat' first
      | exact .none
      | exact .some .float
      | refine .bind fun _ => ?_
      | split

theorem yields_integer? (cs : List Char) : Yields P (integer? cs) := by
  unfold integer?
  simp only
  repeat' first
    | exact .none
    | exact .some (.integer _)
    | refine .bind fun _ => ?_
    | split

theorem yields_number? (cs : List Char) : Yields P (number? cs) :=
  ((yields_date? cs).or (yields_float? cs)).or (yields_integer? cs)

/-- Putting in what an equals sign gives a key. -/
theorem carries_entry (hP : Lasting text P) {room : Nat} {cs more : List Char} {keys : List String}
    (hitem : ∀ cs, cs <:+ text → Yields P (value? room cs)) (hcs : cs <:+ text)
    (hkeys : dottedKey? (maxDepth - 1) cs = some (keys, '=' :: more)) {left : List Char}
    (hvalue : value? room (skipBlanks more) = some (v, left)) (hrest : rest <:+ left) :
    Passes text cs rest ∧ Carries P cs rest (insertNew (1 < keys.length) (keys.getLast?.getD "") v) := by
  have hleft : '=' :: more <:+ cs := leaves_dottedKey? _ _ _ hkeys
  have hskip := skipBlanks_suffix more
  have hpasses := Passes.of_cons hcs hleft (hrest.trans ((leaves_value? _ _ _ hvalue).trans hskip))
  have hmore : skipBlanks more <:+ text := hskip.trans (((List.suffix_cons '=' more).trans hleft).trans hcs)
  have hv := hP.every_later (hitem _ hmore _ hvalue) hrest
  have hlast := List.getLast?_eq_some_getLast (ne_nil_of_dottedKey? hkeys)
  refine ⟨hpasses, hP.carries_insertNew hpasses _ (.inr ⟨keys, more, room, left, hkeys, ?_, hvalue⟩) hv⟩
  rw [hlast]
  rfl

section

variable {item? : List Char → Option (Value × List Char)}

theorem every_of_items? (hP : Lasting text P) (hleaves : ∀ cs, Leaves cs (item? cs))
    (hitem : ∀ cs, cs <:+ text → Yields P (item? cs)) {steps : Nat} {cs : List Char} (hcs : cs <:+ text)
    {items : List Value} (h : items? item? steps cs = some (items, rest)) : ∀ v ∈ items, v.Every (P rest) := by
  induction steps generalizing cs items with
  | zero => cases h
  | succ steps ih =>
    have hskip := (skipLines_suffix false cs).trans hcs
    rw [items?] at h
    split at h
    · obtain ⟨rfl, -⟩ := Prod.mk.inj (Option.some.inj h)
      exact fun _ hv => absurd hv List.not_mem_nil
    · obtain ⟨⟨item, rest'⟩, hfirst, h⟩ := Option.bind_eq_some_iff.1 h
      have hevery := hitem _ hskip _ hfirst
      have hskip' := skipLines_suffix false rest'
      simp only at h
      split at h
      · rename_i more hmore
        obtain ⟨⟨others, _⟩, hothers, heq⟩ := Option.map_eq_some_iff.1 h
        obtain ⟨rfl, rfl⟩ := Prod.mk.inj heq
        have hmore' : more <:+ rest' := (List.suffix_cons ',' more).trans (hmore ▸ hskip')
        have hothers' := ih (hmore'.trans ((hleaves _ _ hfirst).trans hskip)) hothers
        have hrest := (leaves_items? hleaves _ _ _ hothers).trans hmore'
        exact List.forall_mem_cons.2 ⟨hP.every_later hevery hrest, hothers'⟩
      · rename_i hmore
        obtain ⟨rfl, rfl⟩ := Prod.mk.inj (Option.some.inj h)
        have hrest := (List.suffix_cons ']' _).trans (hmore ▸ hskip')
        exact List.forall_mem_singleton.2 (hP.every_later hevery hrest)
      · cases h

theorem yields_entries? (hP : Lasting text P) {room : Nat}
    (hitem : ∀ cs, cs <:+ text → Yields P (value? room cs)) {steps : Nat} {t : Value} {cs : List Char}
    (hcs : cs <:+ text) (ht : t.Every (P cs)) : Yields P (entries? (value? room) steps t cs) := by
  induction steps generalizing cs t with
  | zero => exact .none
  | succ steps ih =>
    intro y h
    rw [entries?] at h
    obtain ⟨⟨keys, rest⟩, hkeys, h⟩ := Option.bind_eq_some_iff.1 h
    simp only at h
    split at h
    · rename_i more
      obtain ⟨⟨item, rest'⟩, hvalue, h⟩ := Option.bind_eq_some_iff.1 h
      obtain ⟨t', hchange, h⟩ := Option.bind_eq_some_iff.1 h
      obtain ⟨hpasses, hinsert⟩ := hP.carries_entry hitem hcs hkeys hvalue List.suffix_rfl
      obtain ⟨-, ht'⟩ := hP.carries_withinBraces hpasses hinsert keys.dropLast _ _ ht hchange
      have hskip := skipBlanks_suffix rest'
      split at h
      · rename_i more' hmore'
        have hend : more' <:+ rest' := (List.suffix_cons ',' more').trans (hmore' ▸ hskip)
        exact ih (hend.trans (hpasses.suffix.trans hcs)) (hP.every_later ht' hend) y h
      · rename_i more' hmore'
        obtain rfl := Option.some.inj h
        exact hP.every_later ht' ((List.suffix_cons '}' more').trans (hmore' ▸ hskip))
      · cases h
    · cases h

end

/-- **All tables of a value that is read have a property that lasts.** -/
theorem yields_value? (hP : Lasting text P) (room : Nat) {cs : List Char} (hcs : cs <:+ text) :
    Yields P (value? room cs) := by
  induction room generalizing cs with
  | zero =>
    unfold value?
    dsimp only
    repeat' split
    all_goals first
      | exact .none
      | exact .map fun _ => .string _
      | exact .some (.boolean _)
      | exact yields_number? _
  | succ room ih =>
    unfold value?
    dsimp only
    split
    · exact .none
    · rename_i c rest
      have hrest : rest <:+ text := (List.suffix_cons c rest).trans hcs
      have hskip := (skipBlanks_suffix rest).trans hrest
      split
      · exact .map fun _ => .string _
      · split
        · intro y h
          obtain ⟨⟨items, rest'⟩, hitems, rfl⟩ := Option.map_eq_some_iff.1 h
          exact .array (hP.every_of_items? (leaves_value? room) (fun _ => ih) hrest hitems)
        · split
          · split
            · rename_i more hmore
              exact .some (hP.every_empty ((List.suffix_cons '}' more).trans (hmore ▸ hskip)) _)
            · exact hP.yields_entries? (fun _ => ih) hskip (hP.every_empty hskip _)
          · repeat' split
            all_goals first
              | exact .none
              | exact .some (.boolean _)
              | exact yields_number? _

end Lasting

/-! ## Documents -/

namespace Document

variable {text cs rest : List Char} {P : List Char → List (String × Value) → Prop} {d d' : Document}

open Lasting

theorem every_of_header? (hP : Lasting text P) (hcs : cs <:+ text) (hd : d.root.Every (P cs))
    (h : d.header? cs = some (d', rest)) : rest <:+ cs ∧ d'.root.Every (P rest) := by
  unfold header? at h
  simp only at h
  obtain ⟨⟨keys, left⟩, hkeys, h⟩ := Option.bind_eq_some_iff.1 h
  have hleft : left <:+ cs := by
    refine (leaves_dottedKey? _ _ _ hkeys).trans ?_
    -- One bracket more may open the header.
    split
    · exact List.suffix_cons _ _
    · exact List.suffix_rfl
  -- Once the line has been read to its end, a table is opened or gets one more element.
  have hdone : ∀ (twice : Bool) (more : List Char), ']' :: more <:+ cs → ((restOfLine? more).bind fun rest =>
      (Value.within false (if twice then Value.openElement (keys.getLast?.getD "")
        else Value.openTable (keys.getLast?.getD "")) keys.dropLast d.root).bind fun root =>
      some (⟨root, keys⟩, rest)) = some (d', rest) → rest <:+ cs ∧ d'.root.Every (P rest) := by
    intro twice more hmore h
    obtain ⟨line, hline, h⟩ := Option.bind_eq_some_iff.1 h
    obtain ⟨root, hroot, h⟩ := Option.bind_eq_some_iff.1 h
    obtain ⟨rfl, rfl⟩ := Prod.mk.inj (Option.some.inj h)
    have hpasses := Passes.of_cons hcs hmore (restOfLine?_suffix hline)
    have hopen := hP.carries_open hpasses twice (keys.getLast?.getD "")
    exact ⟨hpasses.suffix, (hP.carries_within hpasses hopen false keys.dropLast _ _ hd hroot).2⟩
  simp only at h
  split at h
  · exact hdone _ _ ((List.suffix_cons ']' _).trans hleft) h
  · exact hdone _ _ hleft h
  · cases h

theorem every_of_entry? (hP : Lasting text P) (hcs : cs <:+ text) (hd : d.root.Every (P cs))
    (h : d.entry? cs = some (d', rest)) : rest <:+ cs ∧ d'.root.Every (P rest) := by
  unfold entry? at h
  simp only at h
  obtain ⟨⟨keys, rest'⟩, hkeys, h⟩ := Option.bind_eq_some_iff.1 h
  simp only at h
  split at h
  · rename_i more
    obtain ⟨⟨v, rest''⟩, hvalue, h⟩ := Option.bind_eq_some_iff.1 h
    obtain ⟨_, hline, h⟩ := Option.bind_eq_some_iff.1 h
    obtain ⟨root, hroot, h⟩ := Option.bind_eq_some_iff.1 h
    obtain ⟨rfl, rfl⟩ := Prod.mk.inj (Option.some.inj h)
    obtain ⟨hpasses, hinsert⟩ := hP.carries_entry (fun _ => hP.yields_value? _) hcs hkeys hvalue
      (restOfLine?_suffix hline)
    have hwithin := hP.carries_within hpasses hinsert true keys.dropLast
    exact ⟨hpasses.suffix, (hP.carries_within hpasses hwithin false d.header _ _ hd hroot).2⟩
  · cases h

/-- **What lines do to a document keeps what lasts.** -/
theorem every_of_lines? (hP : Lasting text P) {steps : Nat} (hcs : cs <:+ text) (hd : d.root.Every (P cs))
    (h : lines? steps d cs = some d') : d'.root.Every (P []) := by
  induction steps generalizing d cs with
  | zero =>
    unfold lines? at h
    split at h
    · exact Option.some.inj h ▸ hP.every_later hd List.nil_suffix
    · cases h
  | succ steps ih =>
    have hskip := skipBlanks_suffix cs
    unfold lines? at h
    split at h
    · exact Option.some.inj h ▸ hP.every_later hd List.nil_suffix
    · rename_i c more hmore
      have hhere : c :: more <:+ cs := hmore ▸ hskip
      have hmore' : more <:+ cs := (List.suffix_cons c more).trans hhere
      simp only at h
      split at h
      · obtain ⟨rest, hline, h⟩ := Option.bind_eq_some_iff.1 h
        have hrest := (restOfLine?_suffix hline).trans hhere
        exact ih (hrest.trans hcs) (hP.every_later hd hrest) h
      · split at h
        · obtain ⟨⟨d'', rest⟩, hheader, h⟩ := Option.bind_eq_some_iff.1 h
          obtain ⟨hrest, hd'⟩ := every_of_header? hP (hmore'.trans hcs) (hP.every_later hd hmore') hheader
          exact ih (hrest.trans (hmore'.trans hcs)) hd' h
        · obtain ⟨⟨d'', rest⟩, hentry, h⟩ := Option.bind_eq_some_iff.1 h
          obtain ⟨hrest, hd'⟩ := every_of_entry? hP (hhere.trans hcs) (hP.every_later hd hhere) hentry
          exact ih (hrest.trans (hhere.trans hcs)) hd' h

end Document

/-- **What lasts holds of every table of a document.** -/
theorem Lasting.of_readEntries? {text : String} {P : List Char → List (String × Value) → Prop}
    (hP : Lasting text.toList P) {entries : List (String × Value)} (h : readEntries? text = some entries) :
    (Value.table .headed entries).Every (P []) := by
  have hstart : ∀ cs, cs <:+ text.toList →
      ((Document.lines? cs.length ⟨.table .headed [], []⟩ cs).bind fun d => d.root.table?) = some entries →
      (Value.table .headed entries).Every (P []) := by
    intro cs hcs h
    obtain ⟨⟨root, header⟩, hlines, hroot⟩ := Option.bind_eq_some_iff.1 h
    have hevery := Document.every_of_lines? hP hcs (hP.every_empty hcs .headed) hlines
    cases root with
    | table form es =>
      obtain rfl := Option.some.inj hroot
      exact .table hevery.own hevery.entry
    | _ => cases hroot
  unfold readEntries? at h
  simp only at h
  split at h
  · rename_i cs hcs
    exact hstart cs (hcs ▸ List.suffix_cons _ _) h
  · exact hstart _ List.suffix_rfl h

end ProseLint.Toml
