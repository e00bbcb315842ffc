/-
Words that are repeated. A repetition check that puts up with no repetition flags each two matches in a row
that say the same (`repetition_zero`). The matches of the check that is built in are the words of the copy,
so it flags the words that are repeated (`builtin_repetition`).
-/
import ProseLint.Proofs.Check.Streaks
import ProseLint.Proofs.Pattern.Stretches
import ProseLint.Proofs.Style.Accounting
import ProseLint.Proofs.Text.Trimming

namespace ProseLint

open Text (Span Run runs mem_runs)
open Pattern (Match CharSet)
open Unicode (trim)

/-! ## Matches in a row -/

namespace Check

def pairAlert (c : Check) (t : Masked) (a b : Match) : Alert :=
  c.alert ⟨a.span.start, b.span.stop⟩ [trim (t.slice b.span)]

/-- A match that goes on with the streak after another says the same as that one. -/
theorem saySame_of_streakAfter {t : Masked} {start : Nat} {a b : Match}
    (h : Says t (streakAfter t start a).said b) : SaySame t a b := by
  unfold streakAfter at h
  split at h
  · exact absurd rfl h.ne_nil
  · rename_i ha
    exact ⟨eq_false_of_ne_true ha, h.unmasked, h.trimmed.symm, h.trimmed ▸ h.ne_nil⟩

/-- After a match the next one is flagged if the two say the same. -/
theorem repetitionFrom_streakAfter (c : Check) (t : Masked) (start : Nat) (a b : Match) (ms : List Match) :
    ∃ start', c.repetitionFrom 0 t (streakAfter t start a) (b :: ms) =
      (if SaySame t a b then [c.pairAlert t a b] else []) ++ c.repetitionFrom 0 t (streakAfter t start' b) ms := by
  refine ⟨(streakAfter t start a).start, ?_⟩
  by_cases hsame : SaySame t a b
  · obtain ⟨said, ha, hb⟩ := saySame_iff.1 hsame
    rw [if_pos hsame, streakAfter_heard ha, streakAfter_heard hb, repetitionFrom_goesOn hb,
      if_pos (Nat.zero_lt_succ _)]
    rfl
  · rw [if_neg hsame, List.nil_append, repetitionFrom_stops (mt saySame_of_streakAfter hsame)]

theorem repetitionFrom_pairs (c : Check) (t : Masked) (start : Nat) (a : Match) (ms : List Match) :
    c.repetitionFrom 0 t (streakAfter t start a) ms =
      ((a :: ms).zip ms).filterMap fun p => if SaySame t p.1 p.2 then some (c.pairAlert t p.1 p.2) else none := by
  induction ms generalizing a start with
  | nil => rfl
  | cons b ms ih =>
    obtain ⟨start', heq⟩ := c.repetitionFrom_streakAfter t start a b ms
    rw [heq, ih, List.zip_cons_cons, List.filterMap_cons]
    by_cases hsame : SaySame t a b <;> simp [hsame]

/-- **A check that puts up with no repetition flags each two matches in a row that say the same.** -/
theorem repetition_zero (c : Check) (p : Pattern) (t : Masked) : c.repetition p 0 t =
    ((p.findAll t.copy).zip (p.findAll t.copy).tail).filterMap fun q =>
      if SaySame t q.1 q.2 then some (c.pairAlert t q.1 q.2) else none := by
  rw [repetition]
  cases p.findAll t.copy with
  | nil => rfl
  | cons m ms => rw [repetitionFrom_broken, repetitionFrom_pairs, List.tail_cons]

end Check

/-! ## Words in a row -/

/-- The words of a text: what stands between blanks. -/
def words (text : List Char) : List Run := runs (fun c => !Unicode.isBlank c) text

/-- A word that is repeated: the next word is the same, and neither meets a range. -/
def Repeats (ranges : List Span) (a b : Run) : Prop :=
  a.chars = b.chars ∧ a.span.Clear ranges ∧ b.span.Clear ranges

instance (ranges : List Span) (a b : Run) : Decidable (Repeats ranges a b) := inferInstanceAs (Decidable (_ ∧ _))

def repeatAlert (a b : Run) : Alert where
  check := "vale.Repetition"
  severity := .error
  span := ⟨a.span.start, b.span.stop⟩
  message := "'" ++ String.ofList a.chars ++ "' is repeated!"
  description := "A word appears twice in a row."
  link := none

/-- The words of a masked text that are repeated. -/
def repeatAlerts (t : Masked) : List Alert :=
  (((words t.copy).zip (words t.copy).tail).filter fun p => Repeats t.ranges p.1 p.2).map fun p => repeatAlert p.1 p.2

/-! ## The rule that is built in -/

namespace BuiltinStyle

/-- What its pattern looks for: one or more characters that are no blanks. -/
def wordPattern : Pattern := ⟨"([^\\s]+)", .ofExpr (.stretch 1 (.compl (.cls .blank))), [none]⟩

def repetitionCheck : Check where
  name := ⟨name, "Repetition", by decide +kernel, by decide +kernel⟩
  severity := .error
  scope := "text"
  message := "'%s' is repeated!"
  description := "A word appears twice in a row."
  link := none
  matcher := .repetition wordPattern 0

def repetitionFile : String :=
  "extends = \"repetition\"\n" ++ "message = \"'%s' is repeated!\"\n" ++
  "description = \"A word appears twice in a row.\"\n" ++ "level = \"error\"\n" ++ "scope = \"text\"\n" ++
  "ignorecase = false\n" ++ "tokens = ['[^\\s]+']\n"

theorem ofText?_wordPattern : Pattern.ofText? "([^\\s]+)" = some wordPattern := by decide +kernel

theorem ofToml?_repetitionFile : RuleRecord.ofToml? repetitionFile = some repetition := by decide +kernel

/-- What the file of the rule says. -/
def repetitionRule : Definition where
  name := repetitionCheck.name
  message := "'%s' is repeated!"
  description := "A word appears twice in a row."
  severity := .error
  scope := "text"
  link := none
  ignoreCase := false
  negate := false
  kind := .repetition ["[^\\s]+"] 0

theorem ofRecord_repetition : Definition.ofRecord repetitionCheck.name repetition = .ok repetitionRule := by
  rfl

theorem compile_repetitionRule (stylesPath : Option String) (fs : Files) :
    repetitionRule.compile stylesPath fs = .ok repetitionCheck := by
  have hsource : repetitionRule.repetitionSource ["[^\\s]+"] = "([^\\s]+)" := by decide +kernel
  have hmatcher : repetitionRule.matcher stylesPath fs = .ok (.repetition wordPattern 0) := by
    have hkind : repetitionRule.kind = .repetition ["[^\\s]+"] 0 := rfl
    simp only [Definition.matcher, hkind, Rule.pattern, hsource, ofText?_wordPattern]
    rfl
  rw [Definition.compile, hmatcher]
  rfl

theorem check_repetition : check "Repetition" repetition = .ok repetitionCheck := by
  have hname : CheckName.new? name "Repetition" = some repetitionCheck.name := by decide +kernel
  simp only [check, hname, ofRecord_repetition, compile_repetitionRule]

end BuiltinStyle

/-! ## What the rule finds -/

variable {text : List Char} {ranges : List Span}

theorem BuiltinStyle.map_findAll_wordPattern (text : List Char) :
    (wordPattern.findAll text).map (fun m => ⟨m.span, m.text⟩) = words text :=
  Pattern.Program.findAll_stretch 1 (.compl (.cls .blank)) text

/-- A match of the pattern says what the word says, and nothing else is quoted. -/
theorem BuiltinStyle.said_of_word (h : RangedIn text ranges) {m : Match}
    (hm : m ∈ wordPattern.findAll (cover ranges 0 text)) :
    trim m.text = m.text ∧ m.text ≠ [] ∧
      ((Masked.ofRanges text ranges).isMasked m.span = false →
        trim ((Masked.ofRanges text ranges).slice m.span) = m.text) := by
  have hword : (⟨m.span, m.text⟩ : Run) ∈ words (cover ranges 0 text) := by
    rw [← map_findAll_wordPattern]
    exact List.mem_map_of_mem hm
  have hrun := mem_runs.1 hword
  have htrim : trim m.text = m.text := Unicode.trim_eq_self fun c hc => by simpa using hrun.all c hc
  refine ⟨htrim, hrun.ne_nil, fun hfree => ?_⟩
  have hwithin := Pattern.Program.within_of_mem_findAll hm
  obtain ⟨cs, htext, hcopy⟩ := (Masked.clear_of_isMasked_eq_false h.toRanged hfree).slice h hwithin.fits
  obtain rfl : cs = m.text := Option.some.inj (hcopy.symm.trans hwithin.slice)
  simp only [Masked.slice, Masked.ofRanges, htext]
  exact htrim

theorem BuiltinStyle.alert_repetitionCheck (a b : Run) :
    repetitionCheck.alert ⟨a.span.start, b.span.stop⟩ [a.chars] = repeatAlert a b := by
  have hmessage : Template.fill "'%s' is repeated!" [a.chars] = "'" ++ String.ofList a.chars ++ "' is repeated!" := by
    apply String.toList_injective
    simp [Template.fill]
    rfl
  have hdescription : Template.fill "A word appears twice in a row." [a.chars] =
      "A word appears twice in a row." := rfl
  simp only [Check.alert, repetitionCheck, repeatAlert, hmessage, hdescription]
  rfl

theorem BuiltinStyle.run_repetitionCheck (h : RangedIn text ranges) (ctx : Context) (host : ScriptHost) :
    repetitionCheck.run (.ofRanges text ranges) ctx host = (repeatAlerts (.ofRanges text ranges), ctx) := by
  have hrun : repetitionCheck.run (.ofRanges text ranges) ctx host =
      (repetitionCheck.repetition wordPattern 0 (.ofRanges text ranges), ctx) := rfl
  rw [hrun, Check.repetition_zero, repeatAlerts]
  refine congrArg (·, ctx) ?_
  have hcopy : (Masked.ofRanges text ranges).copy = cover ranges 0 text := rfl
  rw [hcopy, ← map_findAll_wordPattern, ← List.map_tail, List.zip_map, ← List.filterMap_eq_map, List.filterMap_filter,
    List.filterMap_map]
  refine List.filterMap_congr fun q hq => ?_
  obtain ⟨a, b⟩ := q
  obtain ⟨ha, hb⟩ := List.of_mem_zip hq
  obtain ⟨htrim, -, -⟩ := said_of_word h ha
  obtain ⟨htrim', hne, hquote⟩ := said_of_word h (List.mem_of_mem_tail hb)
  have hranged : Ranged (Masked.ofRanges text ranges).ranges := h.toRanged
  have hsame : Check.SaySame (.ofRanges text ranges) a b ↔
      Repeats (Masked.ofRanges text ranges).ranges ⟨a.span, a.text⟩ ⟨b.span, b.text⟩ := by
    constructor
    · intro hs
      have hchars := hs.same
      rw [htrim, htrim'] at hchars
      exact ⟨hchars, (Masked.isMasked_eq_false_iff hranged).1 hs.first,
        (Masked.isMasked_eq_false_iff hranged).1 hs.second⟩
    · rintro ⟨hchars, hclear, hclear'⟩
      refine ⟨(Masked.isMasked_eq_false_iff hranged).2 hclear, (Masked.isMasked_eq_false_iff hranged).2 hclear', ?_, ?_⟩
      · rw [htrim, htrim']
        exact hchars
      · rw [htrim']
        exact hne
  by_cases hs : Check.SaySame (.ofRanges text ranges) a b
  · have halert : repetitionCheck.pairAlert (.ofRanges text ranges) a b =
        repeatAlert ⟨a.span, a.text⟩ ⟨b.span, b.text⟩ := by
      rw [Check.pairAlert, hquote hs.second, ← alert_repetitionCheck]
      congr 2
      exact (hsame.1 hs).1.symm
    simp [hs, halert, hsame.1 hs]
  · have hdiffer := mt hsame.2 hs
    simp [hs, hdiffer]

/-- **The check of repetitions that is built in is a scan of the words.** It is registered whatever a
configuration asks for, and is what the file of its rule compiles to. In a text of any format, with any
patterns to mask, it finds the words of the copy that are followed by the same word, where neither of the two
meets a masked range; an alert goes from the start of the first word to the end of the second and quotes the
word. -/
theorem builtin_repetition (fs : Files) (config : Config) :
    ∃ d c, Definition.ofToml BuiltinStyle.repetitionCheck.name BuiltinStyle.repetitionFile = .ok d ∧
      d.compile none .empty = .ok c ∧ (Loader.resolve fs config).registry.get? "vale.Repetition" = some c ∧
      ∀ (m : Masker) (text : List Char) (format : String) (ctx : Context) (host : ScriptHost),
        c.run (m.mask text format) ctx host = (repeatAlerts (m.mask text format), ctx) := by
  have hread : Definition.ofToml BuiltinStyle.repetitionCheck.name BuiltinStyle.repetitionFile =
      .ok BuiltinStyle.repetitionRule := by
    rw [Definition.ofToml, BuiltinStyle.ofToml?_repetitionFile]
    exact BuiltinStyle.ofRecord_repetition
  have hmem : ("Repetition", BuiltinStyle.repetition) ∈ BuiltinStyle.rules := by
    simp [BuiltinStyle.rules]
  refine ⟨_, _, hread, BuiltinStyle.compile_repetitionRule none .empty,
    Loader.get?_resolve_builtin hmem BuiltinStyle.check_repetition fs config, fun m text format ctx host => ?_⟩
  exact BuiltinStyle.run_repetitionCheck (m.rangedIn_ranges text format) ctx host

end ProseLint
