import Daybook.Proofs.Calendar.Order
import Daybook.Proofs.Number.Counts
import Daybook.Proofs.Summary.Runs

/-!
Current runs. The scan from the last day backward stops at the first day of the other kind; what
it has passed by then is the run that may go on of the scan for the longest one. So the current
run is the last stretch, and it is the longest run where their lengths agree, unless an earlier
stretch of that length goes first.
-/

namespace Daybook.Run

variable {present later : Bool} {es : List Entry} {e : Entry} {a b i k m : ℕ}

/-- No stretch that begins before position `i` has `m` days. -/
def NoneBefore (present : Bool) (es : List Entry) (i m : ℕ) : Prop :=
  ∀ k l, Stretch present es k l → k < i → l + 1 - k ≠ m

lemma counts_not (hk : k < es.length) : Counts (!present) es k ↔ ¬ Counts present es k := by
  simp only [Counts, List.getElem?_eq_getElem hk, Option.map_some, Option.some_inj]
  cases es[k].isPresent <;> cases present <;> decide

/-! ### The scan backward -/

lemma current_append : current present (es ++ [e]) =
    if e.isPresent = present then (current present es).extend e.day else {} := by
  simp only [current, List.reverse_append, List.reverse_singleton, List.singleton_append,
    List.takeWhile_cons, beq_iff_eq]
  split_ifs
  · rw [List.reverse_cons, ofEntries_append_singleton]
  · rfl

/-- **The scan backward finds the run that the scan forward would go on with.** -/
lemma foldl_step_snd (present later : Bool) (es : List Entry) :
    (es.foldl (step present later) ({}, {})).2 = current present es := by
  induction es using List.reverseRecOn with
  | nil => rfl
  | append_singleton es e ih =>
    rw [List.foldl_append, List.foldl_cons, List.foldl_nil, step, current_append, ih]
    split_ifs <;> rfl

lemma exists_openFrom (present : Bool) (es : List Entry) :
    ∃ i, OpenFrom present es i ∧ (current present es).length = es.length - i ∧
      current present es = if i < es.length then between es i (es.length - 1) else {} := by
  have hscan := (scanned_foldl present true es).grown
  rw [foldl_step_snd] at hscan
  obtain ⟨i, hi, hrun⟩ := hscan
  refine ⟨i, hi, ?_, ?_⟩
  · rw [hrun, ofEntries_eq, List.length_drop]
  · rw [hrun]
    split_ifs with hlt
    · exact ofEntries_drop hlt
    · rw [List.drop_of_length_le (Nat.not_lt.1 hlt)]
      rfl

lemma current_pos_iff (hne : 0 < es.length) :
    0 < (current present es).length ↔ Counts present es (es.length - 1) := by
  obtain ⟨i, ho, hlen, -⟩ := exists_openFrom present es
  have hle := ho.le
  rw [hlen]
  refine ⟨fun hpos => ho.inside _ (by omega) (by omega), fun hc => ?_⟩
  by_contra hzero
  exact ho.before (es.length - 1) (by omega) hc

/-! ### Beside the longest run -/

lemma length_current_le_longest (present later : Bool) (es : List Entry) :
    (current present es).length ≤ (longest present later es).length := by
  obtain ⟨i, ho, hlen, -⟩ := exists_openFrom present es
  rcases Nat.lt_or_ge i es.length with hi | hi
  · rcases names_longest present later es with ⟨hnone, -⟩ | ⟨a, b, hab, hrun⟩
    · exact absurd (ho.stretch hi) (hnone _ _)
    · have hmax := hab.length_le _ _ (ho.stretch hi)
      have hle := hab.stretch.le
      have hlongest : (longest present later es).length = b + 1 - a := by rw [hrun, between]
      omega
  · omega

lemma length_longest_le (present later : Bool) (es : List Entry) :
    (longest present later es).length ≤ es.length := by
  rcases names_longest present later es with ⟨-, hrun⟩ | ⟨a, b, hab, hrun⟩
  · rw [hrun]
    exact Nat.zero_le _
  · have hb := (hab.stretch.inside b hab.stretch.le (Nat.le_refl b)).lt_length
    have hlongest : (longest present later es).length = b + 1 - a := by rw [hrun, between]
    omega

lemma OpenFrom.eq_longest_last (ho : OpenFrom present es i) (hi : i < es.length)
    (hab : IsLongest present true es a b) (hlen : b + 1 - a = es.length - i) :
    a = i ∧ b = es.length - 1 := by
  have hle := hab.stretch.le
  have hia : i ≤ a := hab.last rfl _ _ (ho.stretch hi) (by omega)
  rcases ho.cases hab.stretch with ⟨ha, hb⟩ | hb <;> omega

lemma OpenFrom.eq_longest_first_iff (ho : OpenFrom present es i) (hi : i < es.length)
    (hab : IsLongest present false es a b) (hlen : b + 1 - a = es.length - i) :
    (a = i ∧ b = es.length - 1) ↔ NoneBefore present es i (es.length - i) := by
  have hle := hab.stretch.le
  constructor
  · rintro ⟨rfl, -⟩ k l hs hk hkl
    have hkle := hs.le
    have hak : a ≤ k := hab.first rfl k l hs (by omega)
    omega
  · intro hnone
    rcases ho.cases hab.stretch with ⟨ha, hb⟩ | hb
    · omega
    · exact absurd hlen (hnone a b hab.stretch (by omega))

end Daybook.Run

namespace Daybook.Summary

open Run Number

variable {c : Context} {s : Series} {present : Bool} {m i j : ℕ}

def currentLength (s : Series) (present : Bool) : ℕ := (Run.current present s.entries).length

def longestLength (s : Series) (present : Bool) : ℕ :=
  (Run.longest present present s.entries).length

/-- The last `m` days of a series are its current run of a kind, and the functions of current
runs tell of it: how long it is and, unless it is empty, on which days it begins and ends. -/
structure IsCurrent (c : Context) (s : Series) (present : Bool) (m : ℕ) : Prop where
  le : m ≤ s.length
  inside : ∀ k, s.length - m ≤ k → k < s.length → Counts present s.entries k
  before : ∀ k, k + 1 = s.length - m → Counts (!present) s.entries k
  length : of c s (.current present .length) = .ok (.number (ofNat m))
  ends : 0 < m → ∃ d e, s.dates[s.length - m]? = some d ∧ s.dates[s.length - 1]? = some e ∧
    of c s (.current present .first) = .ok (day d) ∧
    of c s (.current present .last) = .ok (day e)
  broken : m = 0 →
    of c s (.current present .first) = .fault (.noRun (missing true present true)) ∧
    of c s (.current present .last) = .fault (.noRun (missing true present false))

/-- The functions of the longest run tell of the days from position `i` to position `j`, which
are a longest stretch. -/
structure TellsLongest (c : Context) (s : Series) (present : Bool) (i j : ℕ) : Prop where
  isLongest : IsLongest present present s.entries i j
  length : of c s (.longest present .length) = .ok (.number (ofNat (j + 1 - i)))
  ends : ∃ d e, s.dates[i]? = some d ∧ s.dates[j]? = some e ∧
    of c s (.longest present .first) = .ok (day d) ∧
    of c s (.longest present .last) = .ok (day e)

lemma ofRun_between (isCurrent present : Bool) (hi : i < s.length) (hj : j < s.length) :
    ∃ d e, s.dates[i]? = some d ∧ s.dates[j]? = some e ∧
      ofRun isCurrent present (between s.entries i j) .first = .ok (day d) ∧
      ofRun isCurrent present (between s.entries i j) .last = .ok (day e) := by
  have hie : s.entries[i]? = some s.entries[i] := List.getElem?_eq_getElem hi
  have hje : s.entries[j]? = some s.entries[j] := List.getElem?_eq_getElem hj
  refine ⟨s.entries[i].day, s.entries[j].day, ?_, ?_, ?_, ?_⟩
  · rw [Series.dates, List.getElem?_map, hie, Option.map_some]
  · rw [Series.dates, List.getElem?_map, hje, Option.map_some]
  · rw [ofRun, between, hie]
    rfl
  · rw [ofRun, between, hje]
    rfl

lemma isCurrent (c : Context) (s : Series) (present : Bool) :
    IsCurrent c s present (currentLength s present) := by
  -- the run is the entries from the last break on
  obtain ⟨i, ho, hlen, hrun⟩ := exists_openFrom present s.entries
  have hm : currentLength s present = s.length - i := hlen
  have hle : i ≤ s.length := ho.le
  have hback : s.length - currentLength s present = i := by omega
  refine ⟨by omega, ?_, ?_, rfl, fun hpos => ?_, fun hzero => ?_⟩
  · rw [hback]
    exact ho.inside
  · intro k hk
    rw [hback] at hk
    have hlt : k < s.entries.length := Nat.lt_of_lt_of_le (by omega) ho.le
    exact (counts_not hlt).2 (ho.before k hk)
  · have hi : i < s.length := by omega
    have hlast : s.length - 1 < s.length := by omega
    have hends : Run.current present s.entries = between s.entries i (s.length - 1) := by
      rw [hrun]
      exact if_pos hi
    rw [hback]
    simp only [of, hends]
    exact ofRun_between true present hi hlast
  · have hempty : Run.current present s.entries = {} := by
      rw [hrun]
      have hi : ¬ i < s.length := by omega
      exact if_neg hi
    simp only [of, hempty]
    exact ⟨rfl, rfl⟩

lemma tellsLongest (c : Context) (hij : IsLongest present present s.entries i j)
    (hrun : Run.longest present present s.entries = between s.entries i j) :
    TellsLongest c s present i j := by
  have hj : j < s.length := (hij.stretch.inside j hij.stretch.le (Nat.le_refl j)).lt_length
  have hi : i < s.length := Nat.lt_of_le_of_lt hij.stretch.le hj
  refine ⟨hij, ?_, ?_⟩
  · simp only [of, hrun]
    rfl
  · simp only [of, hrun]
    exact ofRun_between false present hi hj

lemma currentLength_pos_iff (hne : 0 < s.length) :
    0 < currentLength s true ↔ ¬ 0 < currentLength s false := by
  have hlast : s.entries.length - 1 < s.entries.length := Nat.sub_lt hne Nat.one_pos
  have hpresent : 0 < currentLength s true ↔ Counts true s.entries (s.entries.length - 1) :=
    current_pos_iff hne
  have habsent : 0 < currentLength s false ↔ Counts false s.entries (s.entries.length - 1) :=
    current_pos_iff hne
  rw [hpresent, habsent]
  exact @counts_not false _ _ hlast

/-- Where a current run is as long as the longest one, that one is as long as the days from the
beginning of the current run on. -/
lemma exists_isLongest (heq : currentLength s present = longestLength s present)
    (hpos : 0 < currentLength s present) :
    ∃ i a b, OpenFrom present s.entries i ∧ i < s.length ∧ currentLength s present = s.length - i ∧
      IsLongest present present s.entries a b ∧
      Run.longest present present s.entries = between s.entries a b ∧
      b + 1 - a = s.length - i := by
  obtain ⟨i, ho, hlen, -⟩ := exists_openFrom present s.entries
  have hm : currentLength s present = s.length - i := hlen
  rcases names_longest present present s.entries with ⟨-, hrun⟩ | ⟨a, b, hab, hrun⟩
  · have hzero : longestLength s present = 0 := by rw [longestLength, hrun]
    omega
  · have hlongest : longestLength s present = b + 1 - a := by rw [longestLength, hrun, between]
    exact ⟨i, a, b, ho, by omega, hm, hab, hrun, by omega⟩

/-- A current streak that is as long as the longest one is the longest one. -/
lemma longest_streak_tells_current (c : Context)
    (heq : currentLength s true = longestLength s true) (hpos : 0 < currentLength s true) :
    TellsLongest c s true (s.length - currentLength s true) (s.length - 1) := by
  obtain ⟨i, a, b, ho, hi, hm, hab, hrun, hlen⟩ := exists_isLongest heq hpos
  have hback : s.length - currentLength s true = i := by omega
  have hat : a = i ∧ b = s.length - 1 := ho.eq_longest_last hi hab hlen
  rw [hback, ← hat.1, ← hat.2]
  exact tellsLongest c hab hrun

lemma longest_break_tells (c : Context)
    (heq : currentLength s false = longestLength s false) (hpos : 0 < currentLength s false) :
    ∃ a b, TellsLongest c s false a b ∧
      ((a = s.length - currentLength s false ∧ b = s.length - 1) ↔
        NoneBefore false s.entries (s.length - currentLength s false) (currentLength s false)) := by
  obtain ⟨i, a, b, ho, hi, hm, hab, hrun, hlen⟩ := exists_isLongest heq hpos
  have hback : s.length - currentLength s false = i := by omega
  refine ⟨a, b, tellsLongest c hab hrun, ?_⟩
  rw [hback, hm]
  exact ho.eq_longest_first_iff hi hab hlen

/-- **The current run beside the longest one.** The functions of the current run tell of the days
at the end of the axis that are of one kind, at most as many as those of the longest run; where
there are days, there is a current run of exactly one kind. A current streak that is as long as the
longest one is what the functions of the longest streak tell of. With breaks this is so exactly if
no earlier break has that length. -/
theorem current_run_beside_longest (c : Context) (s : Series) :
    (∀ present, IsCurrent c s present (currentLength s present) ∧
      of c s (.longest present .length) = .ok (.number (ofNat (longestLength s present))) ∧
      currentLength s present ≤ longestLength s present ∧
      ofNat (currentLength s present) ≤ ofNat (longestLength s present)) ∧
    (0 < s.length → (0 < currentLength s true ↔ ¬ 0 < currentLength s false)) ∧
    (∀ present, (0.0 < ofNat (currentLength s present) ↔ 0 < currentLength s present) ∧
      (s.length ≤ pow2 53 →
        ((ofNat (currentLength s present) == ofNat (longestLength s present)) = true ↔
          currentLength s present = longestLength s present))) ∧
    (currentLength s true = longestLength s true → 0 < currentLength s true →
      TellsLongest c s true (s.length - currentLength s true) (s.length - 1) ∧
      of c s (.current true .first) = of c s (.longest true .first) ∧
      of c s (.current true .last) = of c s (.longest true .last)) ∧
    (currentLength s false = longestLength s false → 0 < currentLength s false →
      ∃ i j, TellsLongest c s false i j ∧
        ((i = s.length - currentLength s false ∧ j = s.length - 1) ↔
          NoneBefore false s.entries (s.length - currentLength s false)
            (currentLength s false))) := by
  have hle : ∀ present, currentLength s present ≤ longestLength s present := fun present =>
    length_current_le_longest present present s.entries
  refine ⟨fun present => ⟨isCurrent c s present, rfl, hle present, ofNat_le (hle present)⟩,
    currentLength_pos_iff, fun present => ⟨zero_lt_ofNat, fun hlen => ?_⟩, fun heq hpos => ?_,
    longest_break_tells c⟩
  · have hlongest : longestLength s present ≤ s.length :=
      length_longest_le present present s.entries
    have hcurrent := hle present
    exact ofNat_beq_iff (by omega) (by omega)
  · have htells := longest_streak_tells_current c heq hpos
    refine ⟨htells, ?_⟩
    -- both runs name the days at the two ends of one stretch
    obtain ⟨d, e, hd, he, hfirst, hlast⟩ := htells.ends
    obtain ⟨d', e', hd', he', hfirst', hlast'⟩ := (isCurrent c s true).ends hpos
    obtain rfl : d = d' := Option.some_inj.1 (hd.symm.trans hd')
    obtain rfl : e = e' := Option.some_inj.1 (he.symm.trans he')
    exact ⟨hfirst'.trans hfirst.symm, hlast'.trans hlast.symm⟩

/-- Two days without a value and one between them that has one. -/
def gaps : Series where
  entries := [⟨(Date.of? 2024 2 28).get Date.isSome_february28, none⟩,
    ⟨(Date.of? 2024 2 29).get Date.isSome_february29, some 1.0⟩,
    ⟨(Date.of? 2024 3 1).get Date.isSome_march1, none⟩]

/-- The break at the end of these days is as long as the longest one, which is the first day. -/
theorem current_run_beside_longest_gaps : currentLength gaps false = longestLength gaps false ∧
    0 < currentLength gaps false ∧ ∃ i j, TellsLongest {} gaps false i j ∧ ¬ (i = 2 ∧ j = 2) := by
  have heq : currentLength gaps false = longestLength gaps false := by decide
  have hpos : 0 < currentLength gaps false := by decide
  obtain ⟨i, j, htells, hiff⟩ := (current_run_beside_longest {} gaps).2.2.2.2 heq hpos
  have hfirst : Stretch false gaps.entries 0 0 := by
    refine ⟨Nat.le_refl 0, fun k _ hk => ?_, fun k hk => by omega, by unfold Counts; decide⟩
    obtain rfl : k = 0 := by omega
    rfl
  exact ⟨heq, hpos, i, j, htells, fun hat => hiff.1 hat 0 0 hfirst (by decide) rfl⟩

end Daybook.Summary
