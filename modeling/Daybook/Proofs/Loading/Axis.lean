import Daybook.Load
import Daybook.Proofs.Calendar.Range
import Daybook.Proofs.Calendar.Written
import Daybook.Proofs.Evaluation.Basic
import Daybook.Proofs.Reading.Words

/-!
The axis of a registry. The axis from one day to another has all days between the two, each at
its place, and a payload may give it by these two days or by the list of all of them.
-/

namespace Daybook

open Text

/-! ### The axis of a payload -/

lemma Date.trim_chars (d : Date) : trim d.chars = d.chars := by
  refine trim_of_not_blank fun c hc => ?_
  rcases d.isDigit_of_mem_chars hc with hc | rfl
  · exact Number.isBlank_of_isDigit hc
  · decide

namespace Load

variable {a b d : Date} {fields fields' : List (Points × Json)}

lemma day_of_read {s : Points} (h : Iso.read (trim s.shape) = .ok d) (field : String) :
    day field (.text s) = .ok d := by
  rw [day, h]

lemma day_text (field : String) (d : Date) : day field (.text d.text) = .ok d :=
  day_of_read (by rw [Points.shape_ofString, Date.text, String.toList_ofList, d.trim_chars,
    d.read_chars]) field

lemma mapM_day_text (field : String) (ds : List Date) :
    (ds.map fun d => Json.text d.text).mapM (day field) = .ok ds := by
  induction ds with
  | nil => rfl
  | cons d ds ih => rw [List.map_cons, List.mapM_cons, day_text, ok_bind, ih, ok_bind]; rfl

/-- The payload gives the axis by its first and its last day. -/
structure Spans (a b : Date) (fields : List (Points × Json)) : Prop where
  first : ∃ raw, Json.lookup "start_date" fields = some raw ∧ day "start_date" raw = .ok a
  last : ∃ raw, Json.lookup "end_date" fields = some raw ∧ day "end_date" raw = .ok b
  unlisted : ∀ days, Json.lookup "dates" fields ≠ some (.array days)

/-- The payload gives the axis by the list of its days. -/
def Lists (ds : List Date) (fields : List (Points × Json)) : Prop :=
  Json.lookup "dates" fields = some (.array (ds.map fun d => .text d.text))

lemma axis_of_lists {ds : List Date} (h : Lists ds fields) : axis fields = .ok ds := by
  rw [axis, show Json.lookup "dates" fields = _ from h]
  exact mapM_day_text "dates" ds

lemma axis_of_spans (hab : a ≤ b) (h : Spans a b fields) :
    axis fields = .ok (Date.range a b) := by
  obtain ⟨first, hfirst, hfirst'⟩ := h.first
  obtain ⟨last, hlast, hlast'⟩ := h.last
  have hrange : Registry.ofRange a b = .ok { axis := Date.range a b } :=
    if_neg (Nat.not_lt.2 hab)
  rw [axis]
  split
  · rename_i days hdays
    exact absurd hdays (h.unlisted days)
  · simp only [hfirst, hlast, hfirst', hlast', hrange, ok_bind]

lemma registry_congr (haxis : axis fields' = axis fields)
    (hseries : Json.lookup "series" fields' = Json.lookup "series" fields) :
    registry (.object fields') = registry (.object fields) := by
  rw [registry, registry, haxis, hseries]

end Load

namespace Registry

/-- **The days of a range**: all of them, each once and each followed by the day after it, with
the distance from the first one as their place. A payload that lists them gives the same registry
as one that names the first and the last. -/
theorem days_of_ofRange {a b : Date} (hab : a ≤ b) :
    ∃ r, ofRange a b = .ok r ∧ r.members = [] ∧
      (∀ d, d ∈ r.axis ↔ a ≤ d ∧ d ≤ b) ∧
      r.axis.Nodup ∧ r.axis.Pairwise (· < ·) ∧
      r.axis.IsChain (fun d e => d.next? = some e) ∧
      r.axis.length = b.ordinal - a.ordinal + 1 ∧
      (∀ d, r.indexOf d = if a ≤ d ∧ d ≤ b then (d.ordinal : Int) - a.ordinal else -1) ∧
      ∀ fields fields', Load.Spans a b fields → Load.Lists r.axis fields' →
        Json.lookup "series" fields' = Json.lookup "series" fields →
        Load.registry (.object fields') = Load.registry (.object fields) := by
  have hrise : (Date.range a b).Pairwise (· < ·) := Date.pairwise_range a b
  refine ⟨{ axis := Date.range a b }, if_neg (Nat.not_lt.2 hab), rfl, fun d => Date.mem_range,
    hrise.imp fun {d e} hlt heq => ?_, hrise, Date.isChain_run _ _, Date.length_range hab,
    fun d => ?_, fun fields fields' hspans hlists hseries => ?_⟩
  · rw [heq] at hlt
    exact Nat.lt_irrefl _ hlt
  · rw [indexOf]
    split_ifs with h
    · have hle : a.ordinal ≤ d.ordinal := h.1
      simp only [Date.idxOf?_range h.1 h.2]
      omega
    · simp only [List.idxOf?_eq_none_iff.2 fun hd => h (Date.mem_range.1 hd)]
  · -- only the axis is read from the days, and it is the same in both forms
    refine Load.registry_congr ?_ hseries
    rw [Load.axis_of_lists hlists, Load.axis_of_spans hab hspans]

/-- The ends of a range over the turn of a year and the end of a long February. -/
def leapWinter : Date × Date :=
  (⟨2023, 12, 30, by decide, by decide, by decide, by decide, by decide, by decide⟩,
    ⟨2024, 3, 1, by decide, by decide, by decide, by decide, by decide, by decide⟩)

def leapWinterFields : List (Points × Json) := [
  ("start_date", .text "2023-12-30"), ("end_date", .text " 2024-W09-5 "), ("series", .array [])]

theorem days_of_ofRange_leapWinter :
    leapWinter.1 ≤ leapWinter.2 ∧ Load.Spans leapWinter.1 leapWinter.2 leapWinterFields ∧
      ∃ r, ofRange leapWinter.1 leapWinter.2 = .ok r ∧ r.axis.length = 63 ∧
        Load.registry (.object [("dates", .array (r.axis.map fun d => .text d.text)),
          ("series", .array [])]) = Load.registry (.object leapWinterFields) := by
  have hle : leapWinter.1 ≤ leapWinter.2 := by decide
  have hfirst : (Load.day "start_date" (.text "2023-12-30")).toOption = some leapWinter.1 := by
    decide +kernel
  have hlast : (Load.day "end_date" (.text " 2024-W09-5 ")).toOption = some leapWinter.2 := by
    decide +kernel
  have hspans : Load.Spans leapWinter.1 leapWinter.2 leapWinterFields :=
    ⟨⟨_, by simp [leapWinterFields, Json.lookup], toOption_eq_some.1 hfirst⟩,
      ⟨_, by simp [leapWinterFields, Json.lookup], toOption_eq_some.1 hlast⟩,
      by simp [leapWinterFields, Json.lookup]⟩
  obtain ⟨r, hr, -, -, -, -, -, hlength, -, hload⟩ := days_of_ofRange hle
  have h63 : leapWinter.2.ordinal - leapWinter.1.ordinal + 1 = 63 := by decide
  exact ⟨hle, hspans, r, hr, hlength.trans h63,
    hload _ _ hspans (by simp [Load.Lists, Json.lookup]) (by simp [leapWinterFields, Json.lookup])⟩

end Registry

end Daybook
