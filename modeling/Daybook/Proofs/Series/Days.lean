import Mathlib.Data.List.Basic
import Daybook.Reshape

/-!
A series day by day. What an operation puts on a day depends on nothing but the values that its
operands have on that day, and a series that is derived from another keeps its days.
-/

namespace Daybook.Series

/-- The value on the `k`th day of the axis, if it is present. -/
def valueOn (s : Series) (k : ℕ) : Option Float := (s.entries[k]?).bind (·.value)

variable {s t : Series} {k : ℕ}

lemma mem_present {x : Float} : x ∈ s.present ↔ ∃ e ∈ s.entries, e.value = some x := by
  simp [present, List.mem_filterMap]

lemma mem_present_of_valueOn {x : Float} (h : s.valueOn k = some x) : x ∈ s.present := by
  obtain ⟨e, he, hx⟩ := Option.bind_eq_some_iff.1 h
  exact mem_present.2 ⟨e, List.mem_of_getElem? he, hx⟩

@[simp] lemma valueOn_mapPresent (f : Float → Float) :
    (s.mapPresent f).valueOn k = (s.valueOn k).map f := by
  simp only [valueOn, mapPresent, derive, List.getElem?_map]
  cases s.entries[k]? <;> rfl

@[simp] lemma valueOn_zipPresent (f : Float → Float → Float) :
    (zipPresent f s t).valueOn k = (s.valueOn k).bind fun x => (t.valueOn k).map (f x) := by
  simp only [valueOn, zipPresent, derive, List.getElem?_zipWith]
  rcases s.entries[k]? with _ | a <;> rcases t.entries[k]? with _ | b <;> simp

lemma dates_zipPresent (f : Float → Float → Float) (h : s.dates = t.dates) :
    (zipPresent f s t).dates = s.dates := by
  have hl : s.entries.length = t.entries.length := by
    simpa [dates] using congrArg List.length h
  refine List.ext_getElem (by simp [zipPresent, derive, dates, hl]) fun i _ _ => ?_
  simp [zipPresent, derive, dates]

/-! ### Values on the days of an axis -/

lemma dates_zipEntries {axis : List Date} {values : List (Option Float)}
    (h : values.length = axis.length) : (zipEntries axis values).map (·.day) = axis := by
  have hzip : (zipEntries axis values).map (·.day) = (axis.zip values).map Prod.fst := by
    simp only [zipEntries, List.zip, List.map_zipWith]
  rw [hzip, List.map_fst_zip (Nat.le_of_eq h.symm)]

lemma values_zipEntries {axis : List Date} {values : List (Option Float)}
    (h : values.length = axis.length) : (zipEntries axis values).map (·.value) = values := by
  have hzip : (zipEntries axis values).map (·.value) = (axis.zip values).map Prod.snd := by
    simp only [zipEntries, List.zip, List.map_zipWith]
  rw [hzip, List.map_snd_zip (Nat.le_of_eq h)]

/-! ### Derived series -/

/-- The second series has been made from the first one, on the same days. -/
def Derives (s t : Series) : Prop := ∃ es, t = s.derive es ∧ es.map (·.day) = s.dates

lemma Derives.dates_eq (h : s.Derives t) : t.dates = s.dates := by
  obtain ⟨es, rfl, hd⟩ := h
  exact hd

lemma Derives.stats_eq (h : s.Derives t) : t.stats = Stats.ofEntries t.entries := by
  obtain ⟨es, rfl, -⟩ := h
  rfl

lemma Derives.targets_eq (h : s.Derives t) : t.targets = s.targets := by
  obtain ⟨es, rfl, -⟩ := h
  rfl

lemma Derives.measure_eq (h : s.Derives t) : t.measure = s.measure := by
  obtain ⟨es, rfl, -⟩ := h
  rfl

lemma derives_clone (s : Series) : s.Derives s.clone := ⟨s.entries, rfl, rfl⟩

lemma derives_mapPresent (f : Float → Float) (s : Series) : s.Derives (s.mapPresent f) :=
  ⟨_, rfl, by simp [dates]⟩

lemma derives_zipPresent (f : Float → Float → Float) (h : s.dates = t.dates) :
    s.Derives (zipPresent f s t) :=
  ⟨_, rfl, dates_zipPresent f h⟩

lemma derives_filled (x : Float) (s : Series) : s.Derives (Reshape.filled s x) :=
  ⟨_, rfl, by simp [dates]⟩

end Daybook.Series
