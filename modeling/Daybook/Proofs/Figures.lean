import Mathlib.Tactic.Common
import Daybook.Expr.Evaluate

/-!
What the figures of a series can be: a number or a day, or a fault or a limit that an evaluation
may come to.
-/

namespace Daybook

/-- Kinds of faults that an evaluation can have. The others belong to reading, to writing, and
to series that do not fit together. -/
def FaultKind.ofEvaluation : FaultKind → Bool
  | .parse | .alignment | .format | .unresolved => false
  | _ => true

/-- The arithmetic limits that can end an evaluation. -/
def Abort.isOverflow : Abort → Bool
  | .intTooLarge | .quotientTooLarge => true
  | _ => false

namespace Summary

/-- What a figure may be. -/
inductive Figure : Outcome Value → Prop
  | number (x : Float) : Figure (.ok (.number x))
  | day (d : Date) : Figure (.ok (.moment (.day d)))
  | fault {f : Fault} : f.kind.ofEvaluation = true → Figure (.fault f)
  | overflow {a : Abort} : a.isOverflow = true → Figure (.abort a)

lemma Figure.ne_series {v : Outcome Value} (h : Figure v) {t : Series} {p : Origin} :
    v ≠ .ok (.series t p) := by
  cases h <;> nofun

lemma figure_orFault {α : Type} {v : Option α} {g : α → Value} {f : Fault}
    (hg : ∀ a, Figure (.ok (g a))) (hf : f.kind.ofEvaluation = true) :
    Figure (orFault (v.map g) f) := by
  cases v with
  | none => exact .fault hf
  | some a => exact hg a

lemma figure_ofInt (n : Int) : Figure (ofInt n) := by
  rw [ofInt]
  split
  · exact .number _
  · exact .overflow rfl

lemma figure_ofRun (isCurrent present : Bool) (run : Run) (part : RunPart) :
    Figure (ofRun isCurrent present run part) := by
  cases part with
  | length => exact .number _
  | first => exact figure_orFault .day rfl
  | last => exact figure_orFault .day rfl

lemma figure_of (c : Context) (s : Series) (f : Summary) : Figure (f.of c s) := by
  cases f with
  | least | greatest | median => exact figure_orFault .number rfl
  | leastDate | greatestDate | startDate | endDate => exact figure_orFault .day rfl
  | sum | days | daysPresent => exact .number _
  | targets => exact figure_ofInt _
  | longest | current => exact figure_ofRun _ _ _ _
  | average =>
    simp only [Summary.of]
    split
    · exact .fault rfl
    · exact .number _
  | variance =>
    simp only [Summary.of]
    split
    · exact .fault rfl
    · split
      · exact .number _
      · exact .overflow rfl
  | retired => exact .fault rfl

end Summary

lemma Registry.figure_summarise (r : Registry) (c : Context) (name : String) (f : Summary)
    (vs : List Value) : Summary.Figure (r.summarise c name f vs) := by
  rw [summarise.eq_def]
  split
  · split
    · exact Summary.figure_of _ _ _
    · exact .fault rfl
  · exact Summary.figure_of _ _ _
  · exact .fault rfl
  · exact .fault rfl

end Daybook
