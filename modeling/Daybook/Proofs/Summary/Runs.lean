import Mathlib.Data.List.Induction
import Daybook.Summary.Basic

/-!
Longest runs. Days of one kind, present or absent, stand in maximal stretches. The one scan over
all days names a stretch of the greatest length, and of several such ones the first or the last,
as it is told to.
-/

namespace Daybook.Run

/-- There is a day at the position, and it is of the kind that is looked for. -/
def Counts (present : Bool) (es : List Entry) (k : ℕ) : Prop :=
  (es[k]?).map (·.isPresent) = some present

/-- All days from position `i` to position `j` count, and the days next to them do not. -/
structure Stretch (present : Bool) (es : List Entry) (i j : ℕ) : Prop where
  le : i ≤ j
  inside : ∀ k, i ≤ k → k ≤ j → Counts present es k
  before : ∀ k, k + 1 = i → ¬ Counts present es k
  behind : ¬ Counts present es (j + 1)

/-- A stretch of the greatest length, the last one of these or the first one. -/
structure IsLongest (present later : Bool) (es : List Entry) (i j : ℕ) : Prop where
  stretch : Stretch present es i j
  length_le : ∀ k l, Stretch present es k l → l - k ≤ j - i
  last : later = true → ∀ k l, Stretch present es k l → l - k = j - i → k ≤ i
  first : later = false → ∀ k l, Stretch present es k l → l - k = j - i → i ≤ k

/-- The run from position `i` to position `j`. -/
def between (es : List Entry) (i j : ℕ) : Run where
  length := j + 1 - i
  first := (es[i]?).map (·.day)
  last := (es[j]?).map (·.day)

/-- **What the longest run is**: empty if there is no stretch, and else one stretch of the
greatest length, with the days at its two ends. -/
def Names (present later : Bool) (es : List Entry) (r : Run) : Prop :=
  ((∀ i j, ¬ Stretch present es i j) ∧ r = {}) ∨
    ∃ i j, IsLongest present later es i j ∧ r = between es i j

variable {present later : Bool} {es fs : List Entry} {e : Entry} {i j k l : ℕ} {r : Run}

lemma Counts.lt_length (h : Counts present es k) : k < es.length := by
  by_contra hk
  rw [Counts, List.getElem?_eq_none (by omega)] at h
  cases h

lemma counts_append (hk : k < es.length) : Counts present (es ++ [e]) k ↔ Counts present es k := by
  rw [Counts, Counts, List.getElem?_append_left hk]

lemma counts_length : Counts present (es ++ [e]) es.length ↔ e.isPresent = present := by
  simp [Counts]

lemma counts_append_of_ne (he : e.isPresent ≠ present) :
    Counts present (es ++ [e]) k ↔ Counts present es k := by
  rcases Nat.lt_trichotomy k es.length with hk | rfl | hk
  · exact counts_append hk
  · rw [counts_length]
    exact ⟨fun h => absurd h he, fun h => absurd h.lt_length (Nat.lt_irrefl _)⟩
  · refine ⟨fun h => ?_, fun h => ?_⟩ <;> have := h.lt_length
    · rw [List.length_append, List.length_singleton] at this
      omega
    · omega

lemma Stretch.congr (h : ∀ m ≤ l + 1, Counts present es m ↔ Counts present fs m)
    (hs : Stretch present es k l) : Stretch present fs k l where
  le := hs.le
  inside m hk hl := (h m (by omega)).1 (hs.inside m hk hl)
  before m hm hc := hs.before m hm ((h m (by have := hs.le; omega)).2 hc)
  behind hc := hs.behind ((h (l + 1) (by omega)).2 hc)

/-! ### The run that may go on -/

/-- The days from the position to the end count, and the day before them does not. -/
structure OpenFrom (present : Bool) (es : List Entry) (i : ℕ) : Prop where
  le : i ≤ es.length
  inside : ∀ k, i ≤ k → k < es.length → Counts present es k
  before : ∀ k, k + 1 = i → ¬ Counts present es k

lemma OpenFrom.stretch (h : OpenFrom present es i) (hi : i < es.length) :
    Stretch present es i (es.length - 1) where
  le := by omega
  inside k hk hl := h.inside k hk (by omega)
  before := h.before
  behind hc := by
    have := hc.lt_length
    omega

lemma OpenFrom.cases (h : OpenFrom present es i) (hs : Stretch present es k l) :
    (k = i ∧ l + 1 = es.length) ∨ l + 1 < i := by
  have hkl := hs.le
  have hlast := hs.inside l hkl (Nat.le_refl l)
  have hlt := hlast.lt_length
  rcases Nat.lt_trichotomy (l + 1) i with hl | hl | hl
  · exact .inr hl
  · exact absurd hlast (h.before l hl)
  refine .inl ⟨?_, ?_⟩
  · rcases Nat.lt_trichotomy k i with hk | hk | hk
    · exact absurd (hs.inside (i - 1) (by omega) (by omega)) (h.before (i - 1) (by omega))
    · exact hk
    · exact absurd (h.inside (k - 1) (by omega) (by omega)) (hs.before (k - 1) (by omega))
  · by_contra hne
    exact hs.behind (h.inside (l + 1) (by omega) (by omega))

lemma OpenFrom.snoc (h : OpenFrom present es i) (he : e.isPresent = present) :
    OpenFrom present (es ++ [e]) i where
  le := by
    have := h.le
    rw [List.length_append]
    omega
  inside k hk hl := by
    rw [List.length_append, List.length_singleton] at hl
    rcases Nat.lt_or_ge k es.length with hlt | hge
    · exact (counts_append hlt).2 (h.inside k hk hlt)
    · obtain rfl : k = es.length := by omega
      exact counts_length.2 he
  before k hk hc := by
    have := h.le
    exact h.before k hk ((counts_append (by omega)).1 hc)

lemma openFrom_of_ne (he : e.isPresent ≠ present) :
    OpenFrom present (es ++ [e]) (es ++ [e]).length where
  le := Nat.le_refl _
  inside k hk hl := by omega
  before k hk hc := by
    rw [List.length_append, List.length_singleton] at hk
    obtain rfl : k = es.length := by omega
    exact he (counts_length.1 hc)

/-! ### Runs of consecutive entries -/

lemma ofEntries_append_singleton : ofEntries (es ++ [e]) = (ofEntries es).extend e.day := by
  simp [ofEntries, List.foldl_append]

lemma ofEntries_eq (es : List Entry) : ofEntries es =
    { length := es.length, first := es.head?.map (·.day), last := es.getLast?.map (·.day) } := by
  induction es using List.reverseRecOn with
  | nil => rfl
  | append_singleton es e ih =>
    rw [ofEntries_append_singleton, ih, List.length_append, List.length_singleton,
      List.getLast?_concat, List.head?_append, Option.map_or]
    rfl

lemma ofEntries_drop (hi : i < es.length) :
    ofEntries (es.drop i) = between es i (es.length - 1) := by
  have hsub : es.length - 1 + 1 - i = es.length - i := by omega
  rw [ofEntries_eq, between, List.length_drop, List.head?_drop, List.getLast?_drop,
    if_neg (by omega), List.getLast?_eq_getElem?, hsub]

lemma between_append (hi : i ≤ j) (hj : j < es.length) :
    between (es ++ [e]) i j = between es i j := by
  rw [between, between, List.getElem?_append_left hj, List.getElem?_append_left (by omega)]

/-! ### One more day -/

lemma Names.append_of_ne (h : Names present later es r) (he : e.isPresent ≠ present) :
    Names present later (es ++ [e]) r := by
  have hback : ∀ {k l}, Stretch present (es ++ [e]) k l → Stretch present es k l := fun hs =>
    hs.congr fun m _ => counts_append_of_ne he
  rcases h with ⟨hnone, rfl⟩ | ⟨i, j, hij, rfl⟩
  · exact .inl ⟨fun i j hs => hnone i j (hback hs), rfl⟩
  · have hlt := (hij.stretch.inside j hij.stretch.le (Nat.le_refl j)).lt_length
    refine .inr ⟨i, j, ⟨?_, ?_, ?_, ?_⟩, (between_append hij.stretch.le hlt).symm⟩
    · exact hij.stretch.congr fun m _ => (counts_append_of_ne he).symm
    · exact fun k l hs => hij.length_le k l (hback hs)
    · exact fun hl k l hs => hij.last hl k l (hback hs)
    · exact fun hf k l hs => hij.first hf k l (hback hs)

section

variable {a b : ℕ} (ho : OpenFrom present es i) (he : e.isPresent = present)

include ho he

lemma OpenFrom.grown : Stretch present (es ++ [e]) i es.length := by
  have hi := ho.le
  have hs := (ho.snoc he).stretch (by rw [List.length_append, List.length_singleton]; omega)
  rwa [List.length_append, List.length_singleton, Nat.add_sub_cancel] at hs

lemma OpenFrom.append_cases (hs : Stretch present (es ++ [e]) k l) :
    (k = i ∧ l = es.length) ∨ (l + 1 < i ∧ Stretch present es k l) := by
  have hi := ho.le
  rcases (ho.snoc he).cases hs with ⟨hk, hl⟩ | hl
  · rw [List.length_append, List.length_singleton] at hl
    exact .inl ⟨hk, by omega⟩
  · exact .inr ⟨hl, hs.congr fun m hm => counts_append (by omega)⟩

lemma OpenFrom.isLongest_of_none (hnone : ∀ k l, ¬ Stretch present es k l) :
    IsLongest present later (es ++ [e]) i es.length := by
  have honly : ∀ k l, Stretch present (es ++ [e]) k l → k = i ∧ l = es.length := fun k l hs =>
    (ho.append_cases he hs).resolve_right fun h => hnone k l h.2
  refine ⟨ho.grown he, fun k l hs => ?_, fun _ k l hs _ => ?_, fun _ k l hs _ => ?_⟩ <;>
    obtain ⟨rfl, rfl⟩ := honly k l hs <;> exact Nat.le_refl _

lemma OpenFrom.isLongest (hab : IsLongest present later es a b)
    (hbetter : b + 1 - a < es.length + 1 - i ∨ (later = true ∧ b + 1 - a = es.length + 1 - i)) :
    IsLongest present later (es ++ [e]) i es.length := by
  have hi := ho.le
  have hle := hab.stretch.le
  refine ⟨ho.grown he, fun k l hs => ?_, fun _ k l hs _ => ?_, fun hfirst k l hs heq => ?_⟩
  · rcases ho.append_cases he hs with ⟨rfl, rfl⟩ | ⟨-, hs⟩
    · exact Nat.le_refl _
    · have := hab.length_le k l hs
      omega
  · have := hs.le
    rcases ho.append_cases he hs with ⟨rfl, -⟩ | ⟨hl, -⟩ <;> omega
  · rcases ho.append_cases he hs with ⟨rfl, -⟩ | ⟨-, hs⟩
    · exact Nat.le_refl _
    · -- on a draw the first would be kept, so that the grown one is longer than all others
      have := hab.length_le k l hs
      have hlt := hbetter.resolve_right fun h => by simp [hfirst] at h
      omega

lemma OpenFrom.isLongest_of_not (hab : IsLongest present later es a b)
    (hbetter : ¬ (b + 1 - a < es.length + 1 - i ∨
      (later = true ∧ b + 1 - a = es.length + 1 - i))) :
    b < es.length ∧ IsLongest present later (es ++ [e]) a b := by
  have hi := ho.le
  have hle := hab.stretch.le
  -- the open run is not the longest, so the longest ends before it begins
  have hbefore : b + 1 < i := by
    rcases ho.cases hab.stretch with ⟨rfl, hb⟩ | hb
    · exact absurd (.inl (by omega)) hbetter
    · exact hb
  have hstretch : Stretch present (es ++ [e]) a b :=
    hab.stretch.congr fun m hm => (counts_append (by omega)).symm
  refine ⟨by omega, hstretch, fun k l hs => ?_, fun hlater k l hs heq => ?_,
    fun hfirst k l hs heq => ?_⟩
  · rcases ho.append_cases he hs with ⟨rfl, rfl⟩ | ⟨-, hs⟩
    · omega
    · exact hab.length_le k l hs
  · rcases ho.append_cases he hs with ⟨rfl, rfl⟩ | ⟨-, hs⟩
    · exact absurd (.inr ⟨hlater, by omega⟩) hbetter
    · exact hab.last hlater k l hs heq
  · rcases ho.append_cases he hs with ⟨rfl, rfl⟩ | ⟨-, hs⟩
    · omega
    · exact hab.first hfirst k l hs heq

lemma Names.append (h : Names present later es r) :
    Names present later (es ++ [e]) (better later r (between (es ++ [e]) i es.length)) := by
  have hi := ho.le
  rcases h with ⟨hnone, rfl⟩ | ⟨a, b, hab, rfl⟩
  · have hpos : 0 < es.length + 1 - i := by omega
    exact .inr ⟨i, es.length, ho.isLongest_of_none he hnone, if_pos (.inl hpos)⟩
  by_cases hbetter : b + 1 - a < es.length + 1 - i ∨
      (later = true ∧ b + 1 - a = es.length + 1 - i)
  · exact .inr ⟨i, es.length, ho.isLongest he hab hbetter, if_pos hbetter⟩
  · obtain ⟨hb, hlongest⟩ := ho.isLongest_of_not he hab hbetter
    refine .inr ⟨a, b, hlongest, ?_⟩
    rw [between_append hab.stretch.le hb]
    exact if_neg hbetter

end

/-! ### The scan -/

/-- **The invariant of the scan**: the best run so far is named, and the other one is the run
that may go on. -/
structure Scanned (present later : Bool) (es : List Entry) (state : Run × Run) : Prop where
  best : Names present later es state.1
  grown : ∃ i, OpenFrom present es i ∧ state.2 = ofEntries (es.drop i)

lemma Scanned.step {state : Run × Run} (h : Scanned present later es state) (e : Entry) :
    Scanned present later (es ++ [e]) (step present later state e) := by
  obtain ⟨best, grown⟩ := state
  obtain ⟨hbest, i, ho, hgrown⟩ := h
  simp only at hbest hgrown
  rw [Run.step]
  split
  · -- the run goes on from where it began
    rename_i he
    have hi := ho.le
    have hext : grown.extend e.day = ofEntries ((es ++ [e]).drop i) := by
      rw [List.drop_append_of_le_length hi, ofEntries_append_singleton, hgrown]
    have hrun : ofEntries ((es ++ [e]).drop i) = between (es ++ [e]) i es.length := by
      rw [ofEntries_drop (by rw [List.length_append, List.length_singleton]; omega),
        List.length_append, List.length_singleton, Nat.add_sub_cancel]
    refine ⟨?_, i, ho.snoc he, hext⟩
    simp only [hext, hrun]
    exact hbest.append ho he
  · rename_i he
    refine ⟨hbest.append_of_ne he, _, openFrom_of_ne he, ?_⟩
    rw [List.drop_length]
    rfl

lemma scanned_foldl (present later : Bool) (es : List Entry) :
    Scanned present later es (es.foldl (Run.step present later) ({}, {})) := by
  induction es using List.reverseRecOn with
  | nil =>
    have hnone : ∀ k, ¬ Counts present [] k := fun k hc => absurd hc.lt_length (Nat.not_lt_zero k)
    constructor
    · exact .inl ⟨fun i j hs => hnone j (hs.inside j hs.le (Nat.le_refl j)), rfl⟩
    · refine ⟨0, ⟨Nat.le_refl 0, fun k _ hk => ?_, fun k _ => hnone k⟩, rfl⟩
      exact absurd hk (Nat.not_lt_zero k)
  | append_singleton es e ih =>
    rw [List.foldl_append]
    exact ih.step e

lemma names_longest (present later : Bool) (es : List Entry) :
    Names present later es (longest present later es) := (scanned_foldl present later es).best

end Daybook.Run

namespace Daybook.Summary

open Run

/-- **The longest run is one stretch.** The scan names a stretch of the greatest length, the last
one of these or the first one as it is told to, and nothing if there is no stretch. The functions
of streaks ask for the last and those of breaks for the first; all three of a family tell length,
first and last day of the same stretch. -/
theorem longest_describes_stretch (c : Context) (s : Series) (present later : Bool) :
    Names present later s.entries (Run.longest present later s.entries) ∧
      ((∀ i j, ¬ Stretch present s.entries i j) ∧
          of c s (longest present .length) = .ok (.number (Number.ofNat 0)) ∧
          of c s (longest present .first) = .fault (.noRun (missing false present true)) ∧
          of c s (longest present .last) = .fault (.noRun (missing false present false)) ∨
        ∃ i j d e, IsLongest present present s.entries i j ∧
          s.dates[i]? = some d ∧ s.dates[j]? = some e ∧
          of c s (longest present .length) = .ok (.number (Number.ofNat (j + 1 - i))) ∧
          of c s (longest present .first) = .ok (day d) ∧
          of c s (longest present .last) = .ok (day e)) := by
  refine ⟨names_longest present later s.entries, ?_⟩
  rcases names_longest present present s.entries with ⟨hnone, hrun⟩ | ⟨i, j, hij, hrun⟩
  · refine .inl ⟨hnone, ?_⟩
    simp only [of, hrun]
    exact ⟨rfl, rfl, rfl⟩
  · have hj := (hij.stretch.inside j hij.stretch.le (Nat.le_refl j)).lt_length
    have hi : i < s.entries.length := Nat.lt_of_le_of_lt hij.stretch.le hj
    refine .inr ⟨i, j, s.entries[i].day, s.entries[j].day, hij, ?_, ?_, ?_⟩
    · simp [Series.dates, List.getElem?_eq_getElem hi]
    · simp [Series.dates, List.getElem?_eq_getElem hj]
    · simp only [of, hrun, between, List.getElem?_eq_getElem hi, List.getElem?_eq_getElem hj]
      exact ⟨rfl, rfl, rfl⟩

end Daybook.Summary
