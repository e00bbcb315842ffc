/-
What the checks of one document have noted so far, in order. Notes are only ever added. The distinct ones
are kept a second time, in a set that answers whether something has been noted; `Context.Exact` says that
it answers as the notes would, and `Exact.push` that adding a note keeps it so.
-/
import Std.Data.TreeSet

namespace ProseLint

/-- The notes on a document of a format, the last one first, and the set of them. -/
structure Context where
  format : String
  newestFirst : List String
  seen : Std.TreeSet String
  deriving Repr

namespace Context

def fresh (format : String) : Context := ⟨format, [], ∅⟩

/-- Adds a note. The set takes it only if it does not hold it. -/
def push (c : Context) (note : String) : Context :=
  { c with
    newestFirst := note :: c.newestFirst
    seen := if c.seen.contains note then c.seen else c.seen.insert note }

/-- Whether something has been noted. The set is asked, not the notes. -/
def contains (c : Context) (note : String) : Bool := c.seen.contains note

def notes (c : Context) : List String := c.newestFirst.reverse

@[simp] theorem notes_fresh (format : String) : (fresh format).notes = [] := rfl

@[simp] theorem notes_push (c : Context) (note : String) :
    (c.push note).notes = c.notes ++ [note] := by simp [notes, push]

@[simp] theorem contains_fresh (format name : String) : (fresh format).contains name = false := rfl

theorem contains_push (c : Context) (note name : String) :
    (c.push note).contains name = (name == note || c.contains name) := by
  have hinsert : (c.seen.insert note).contains name = (name == note || c.seen.contains name) := by
    rw [Std.TreeSet.contains_insert, Bool.eq_iff_iff, Bool.or_eq_true, Bool.or_eq_true, beq_iff_eq, beq_iff_eq,
      Std.compare_eq_iff_eq, eq_comm]
  unfold contains push
  split
  · rename_i hnote
    by_cases hname : name = note
    · rw [hname, hnote, Bool.or_true]
    · rw [beq_false_of_ne hname, Bool.false_or]
  · exact hinsert

/-- The set holds exactly what has been noted. -/
def Exact (c : Context) : Prop := ∀ name, c.contains name = true ↔ name ∈ c.notes

theorem exact_fresh (format : String) : (fresh format).Exact := fun name => by simp

/-- **Adding a note keeps the set exact.** -/
theorem Exact.push {c : Context} (h : c.Exact) (note : String) : (c.push note).Exact := fun name => by
  rw [contains_push, notes_push, Bool.or_eq_true, beq_iff_eq, h name, List.mem_append, List.mem_singleton, or_comm]

end Context

end ProseLint
