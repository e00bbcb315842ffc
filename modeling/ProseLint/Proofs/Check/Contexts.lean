/-
The context of a document while its checks run. A run of a check leaves the notes there were and adds what
the check notes after them, which the context has no part in; most kinds of checks note nothing
(`Context.Appends`). This holds at every point of a sequence of runs, on one text or on several, and the set
of what has been noted is exact there (`Exact.after`). A scan of a document is such a sequence
(`Engine.checkWith_eq_found`), so it holds between any two of its checks (`Context.append_only`).
-/
import ProseLint.Proofs.Check.Isolation

namespace ProseLint

/-- A check that is run on a masked text, with what runs its script. -/
structure CheckRun where
  check : Check
  text : Masked
  host : ScriptHost

/-- What a run adds to the notes. Neither the context nor the host plays a part. -/
def CheckRun.noted (r : CheckRun) : List String := r.check.noted r.text

namespace Context

/-- The context after a run. -/
def afterRun (ctx : Context) (r : CheckRun) : Context := (r.check.run r.text ctx r.host).2

def after (ctx : Context) (rs : List CheckRun) : Context := rs.foldl afterRun ctx

/-- The alerts of several runs, each on the context that those before it leave. -/
def found : Context → List CheckRun → List Alert
  | _, [] => []
  | ctx, r :: rs => (r.check.run r.text ctx r.host).1 ++ found (ctx.afterRun r) rs

variable {ctx : Context}

/-! ## One run -/

theorem afterRun_eq (ctx : Context) (r : CheckRun) : ctx.afterRun r = r.noted.foldl push ctx :=
  Check.context_run r.check r.text ctx r.host

theorem format_foldl_push (notes : List String) (ctx : Context) : (notes.foldl push ctx).format = ctx.format := by
  induction notes generalizing ctx with
  | nil => rfl
  | cons n ns ih => exact ih (ctx.push n)

theorem Exact.foldl_push (h : ctx.Exact) (notes : List String) : (notes.foldl Context.push ctx).Exact := by
  induction notes generalizing ctx with
  | nil => exact h
  | cons n ns ih => exact ih (h.push n)

/-- **A run keeps the set exact.** -/
theorem Exact.afterRun (h : ctx.Exact) (r : CheckRun) : (ctx.afterRun r).Exact := by
  rw [afterRun_eq]
  exact h.foldl_push r.noted

theorem afterRun_eq_self {r : CheckRun}
    (hkind : r.check.matcher.kindName ∈ ["existence", "occurrence", "repetition", "substitution", "script"])
    (ctx : Context) : ctx.afterRun r = ctx := by
  have hnone : r.noted = [] := by
    unfold CheckRun.noted Check.noted
    split
    · rename_i h
      simp [h, Matcher.kindName] at hkind
    · rename_i h
      simp [h, Matcher.kindName] at hkind
    · rfl
  rw [afterRun_eq, hnone]
  rfl

/-! ## Runs one after another -/

theorem Exact.after (h : ctx.Exact) (rs : List CheckRun) : (ctx.after rs).Exact := by
  induction rs generalizing ctx with
  | nil => exact h
  | cons r rs ih => exact ih (h.afterRun r)

theorem found_append (ctx : Context) (rs ss : List CheckRun) :
    ctx.found (rs ++ ss) = ctx.found rs ++ (ctx.after rs).found ss := by
  induction rs generalizing ctx with
  | nil => rfl
  | cons r rs ih => rw [List.cons_append, found, ih, found, List.append_assoc, after, after, List.foldl_cons]

/-- What a run does to the context that it is given. -/
structure Appends (ctx : Context) (r : CheckRun) : Prop where
  /-- The notes are those there were, and after them what the check notes on the text. -/
  notes : (ctx.afterRun r).notes = ctx.notes ++ r.noted
  format : (ctx.afterRun r).format = ctx.format
  /-- These kinds of checks leave the context as it is, whatever a script answers. -/
  keeps : r.check.matcher.kindName ∈ ["existence", "occurrence", "repetition", "substitution", "script"] →
    ctx.afterRun r = ctx
  /-- Something is held to be noted exactly if it is among the notes, before the run and after it. -/
  exact : ctx.Exact
  exact_after : (ctx.afterRun r).Exact

theorem Exact.appends (h : ctx.Exact) (r : CheckRun) : ctx.Appends r where
  notes := by rw [afterRun_eq, notes_foldl_push]
  format := by rw [afterRun_eq, format_foldl_push]
  keeps hkind := afterRun_eq_self hkind ctx
  exact := h
  exact_after := h.afterRun r

end Context

/-! ## Scans -/

namespace Engine

/-- The runs of a scan of a document by some of the checks. -/
def runs (e : Engine) (active : Check → Bool) (d : Document) : List CheckRun :=
  (e.registry.checks.filter active).map (⟨·, e.masker.mask d.text d.format, e.host⟩)

theorem runChecks_eq_found (host : ScriptHost) (t : Masked) (ctx : Context) (cs : List Check) :
    (runChecks host t ctx cs).1.flatten = ctx.found (cs.map (⟨·, t, host⟩)) := by
  induction cs generalizing ctx with
  | nil => rfl
  | cons c cs ih =>
    simp only [runChecks, List.flatten_cons, List.map_cons, Context.found, ih]
    rfl

/-- **A scan is a sequence of runs on one context.** -/
theorem checkWith_eq_found (e : Engine) (active : Check → Bool) (d : Document) :
    e.checkWith active d = (Context.fresh d.format).found (e.runs active d) :=
  runChecks_eq_found _ _ _ _

end Engine

/-- **Contexts are only added to, and the set of what has been noted is exact.** This holds at every point of
a sequence of runs, on whatever texts, that starts from a context someone has noted something in or nothing;
and so it holds at every point between two checks of a scan, which starts from a fresh context. -/
theorem Context.append_only :
    (∀ (format : String) (earlier : List String) (before : List CheckRun) (r : CheckRun),
      ((earlier.foldl push (fresh format)).after before).Appends r) ∧
    ∀ (e : Engine) (active : Check → Bool) (d : Document) (before : List CheckRun) (r : CheckRun)
      (rest : List CheckRun), e.runs active d = before ++ r :: rest →
        let ctx := (fresh d.format).after before
        e.checkWith active d = (fresh d.format).found before ++ (r.check.run r.text ctx r.host).1 ++
          (ctx.afterRun r).found rest ∧ ctx.Appends r := by
  refine ⟨fun format earlier before r => ?_, fun e active d before r rest hruns => ⟨?_, ?_⟩⟩
  · exact (((exact_fresh format).foldl_push earlier).after before).appends r
  · rw [e.checkWith_eq_found, hruns, found_append, found, List.append_assoc]
  · exact ((exact_fresh d.format).after before).appends r

end ProseLint
