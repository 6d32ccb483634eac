import Daybook.Command.Run
import Daybook.Proofs.Loading.Entries

/-!
What keeps a file from being loaded. Nearly always it is a bad value, which the command reports.
The other failures have one of four causes in the text of the file: it holds no object, values
are given that have no items, a whole number is too large for a double, or a date lies behind the
last day of the calendar.
-/

namespace Daybook

open Text

/-- A value that is given for a list of items and has none: a number or true. -/
inductive Json.Itemless : Json → Prop
  | true : Itemless (.bool true)
  | int {n : Int} : n ≠ 0 → Itemless (.int n)
  | float {x : Float} : (x == 0.0) = false → Itemless (.float x)

namespace Load

/-- The text of a day is in one of the places where days are given. -/
inductive DayText (fields : List (Points × Json)) : Points → Prop
  | listed {days : List Json} {s : Points} : Json.lookup "dates" fields = some (.array days) →
      .text s ∈ days → DayText fields s
  | first {s : Points} : Json.lookup "start_date" fields = some (.text s) → DayText fields s
  | last {s : Points} : Json.lookup "end_date" fields = some (.text s) → DayText fields s

/-- The whole number is in one of the places where an entry has numbers. -/
inductive EntryNumber (own : List (Points × Json)) (position : ℕ) : Int → Prop
  | id {n : Int} : (Json.lookup "id" own).getD (.int position) = .int n → EntryNumber own position n
  | value {items : List Json} {n : Int} : Json.lookup "values" own = some (.array items) →
      .int n ∈ items → EntryNumber own position n
  | targets {n : Int} : Json.lookup "target_count" own = some (.int n) → EntryNumber own position n

/-- What in an entry makes the loader fail otherwise than by a bad value. -/
inductive EntryBlamed (position : ℕ) (own : List (Points × Json)) : LoadFault → Prop
  | noItems {raw : Json} : Json.lookup "values" own = some raw → raw.Itemless →
      EntryBlamed position own (.noItems raw)
  | tooLarge {n : Int} : EntryNumber own position n → Number.ofInt? n = none →
      EntryBlamed position own (.abort .intTooLarge)

/-- What in a JSON value makes the loader fail otherwise than by a bad value. -/
inductive Blamed : Json → LoadFault → Prop
  | noObject {j : Json} : j ≠ .null → (∀ fields, j ≠ .object fields) → Blamed j (.noFields j)
  | pastCalendar {fields : List (Points × Json)} {s : Points} : DayText fields s →
      Iso.read (trim s.shape) = .error .pastCalendar →
      Blamed (.object fields) (.abort .pastCalendar)
  | entry {fields : List (Points × Json)} {js : List Json} {position : ℕ}
      {own : List (Points × Json)} {f : LoadFault} :
      Json.lookup "series" fields = some (.array js) → js[position]? = some (.object own) →
      EntryBlamed position own f → Blamed (.object fields) f

variable {axis : List Date} {fields : List (Points × Json)} {j raw : Json} {f : LoadFault}

/-! ### Numbers and days -/

lemma float?_eq_error (h : float? raw = .error f) :
    f = .abort .intTooLarge ∧ ∃ n, raw = .int n ∧ Number.ofInt? n = none := by
  cases raw with
  | int n =>
    rw [float?] at h
    split at h
    · cases h
    · rename_i hn
      cases h
      exact ⟨rfl, n, rfl, hn⟩
  | _ => cases h

lemma int?_eq_error (h : int? raw = .error f) :
    f = .abort .intTooLarge ∧ ∃ n, raw = .int n ∧ Number.ofInt? n = none := by
  rcases bind_eq_error.1 h with h | ⟨x, -, h⟩
  · exact float?_eq_error h
  · cases h

lemma value_eq_error {id : Int} (h : value id raw = .error f) : f.kind = .badValue ∨
    f = .abort .intTooLarge ∧ ∃ n, raw = .int n ∧ Number.ofInt? n = none := by
  rw [value.eq_def] at h
  split at h
  · cases h
  · rcases bind_eq_error.1 h with h | ⟨x, -, h⟩
    · exact .inr (float?_eq_error h)
    · cases x <;> cases h
      exact .inl rfl

lemma day_eq_error {field : String} (h : day field raw = .error f) : f.kind = .badValue ∨
    f = .abort .pastCalendar ∧ ∃ s, raw = .text s ∧
      Iso.read (trim s.shape) = .error .pastCalendar := by
  cases raw with
  | text s =>
    rw [day] at h
    split at h
    · cases h
    · cases h
      exact .inl rfl
    · rename_i hs
      cases h
      exact .inr ⟨rfl, s, rfl, hs⟩
  | _ =>
    cases h
    exact .inl rfl

lemma itemsOf_eq_error {own : Option Json} (h : itemsOf (own.getD .null) = .error f) :
    ∃ raw, own = some raw ∧ f = .noItems raw ∧ raw.Itemless := by
  rcases own with _ | raw
  · cases h
  · refine ⟨raw, rfl, ?_⟩
    simp only [Option.getD_some, itemsOf.eq_def] at h
    split at h
    · cases h
    · cases h
    · cases h
    · split at h
      · rename_i hgiven
        cases h
        refine ⟨rfl, ?_⟩
        cases raw with
        | bool b =>
          cases b
          · cases hgiven
          · exact .true
        | int n => exact .int (by simpa [Json.isGiven] using hgiven)
        | float x => exact .float (by simpa [Json.isGiven] using hgiven)
        | null => cases hgiven
        | _ => simp_all
      · cases h

lemma eq_array_of_int_mem {own : Option Json} {items : List Json} {n : Int}
    (h : itemsOf (own.getD .null) = .ok items) (hn : .int n ∈ items) :
    own = some (.array items) := by
  rcases own with _ | raw
  · cases h
    cases hn
  · rcases itemsOf_eq_ok h with hraw | ⟨-, rfl⟩ | hmistaken
    · exact congrArg some hraw
    · cases hn
    · cases hmistaken with
      | text s =>
        obtain ⟨p, -, hp⟩ := List.mem_map.1 hn
        cases hp
      | object fs =>
        obtain ⟨field, -, hfield⟩ := List.mem_map.1 hn
        cases hfield
      | false | zero | floatZero => cases hn

lemma measure_eq_error {raw : Option Json} (h : measure raw = .error f) : f.kind = .badValue := by
  rw [measure.eq_def] at h
  split at h
  · cases h
  · cases h
  · split at h <;> cases h
    rfl

/-! ### Entries -/

lemma entry_eq_error {position : ℕ} (h : entry axis position j = .error f) :
    f.kind = .badValue ∨ ∃ own, j = .object own ∧ EntryBlamed position own f := by
  cases j with
  | object own =>
    rw [entry_object] at h
    -- the parts of an entry, in the order in which they are read
    rcases bind_eq_error.1 h with h | ⟨id, -, h⟩
    · rcases bind_eq_error.1 h with h | ⟨id?, -, h⟩
      · obtain ⟨rfl, n, hn, hlarge⟩ := int?_eq_error h
        exact .inr ⟨own, rfl, .tooLarge (.id hn) hlarge⟩
      · cases id? <;> cases h
        exact .inl rfl
    rcases bind_eq_error.1 h with h | ⟨items, hitems, h⟩
    · obtain ⟨raw, hraw, rfl, hitemless⟩ := itemsOf_eq_error h
      exact .inr ⟨own, rfl, .noItems hraw hitemless⟩
    rcases bind_eq_error.1 h with h | ⟨values, -, h⟩
    · obtain ⟨raw, hmem, h⟩ := mapM_eq_error h
      refine (value_eq_error h).imp_right ?_
      rintro ⟨rfl, n, rfl, hlarge⟩
      exact ⟨own, rfl, .tooLarge (.value (eq_array_of_int_mem hitems hmem) hmem) hlarge⟩
    rw [seriesOf] at h
    split at h
    · cases h
      exact .inl rfl
    rcases bind_eq_error.1 h with h | ⟨m, -, h⟩
    · exact .inl (measure_eq_error h)
    rcases bind_eq_error.1 h with h | ⟨targets, -, h⟩
    · obtain ⟨rfl, n, hn, hlarge⟩ := int?_eq_error h
      refine .inr ⟨own, rfl, .tooLarge (.targets ?_) hlarge⟩
      cases ht : Json.lookup "target_count" own with
      | none => rw [ht] at hn; cases hn
      | some t => rw [ht] at hn; exact congrArg some hn
    · cases h
  | _ =>
    cases h
    exact .inl rfl

lemma entries_eq_error {first : ℕ} {js : List Json} (h : entries axis first js = .error f) :
    ∃ i j, js[i]? = some j ∧ entry axis (first + i) j = .error f := by
  induction js generalizing first with
  | nil => cases h
  | cons j js ih =>
    rw [entries] at h
    rcases bind_eq_error.1 h with h | ⟨s, -, h⟩
    · exact ⟨0, j, rfl, h⟩
    · rcases bind_eq_error.1 h with h | ⟨ss, -, h⟩
      · obtain ⟨i, k, hk, h⟩ := ih h
        refine ⟨i + 1, k, hk, ?_⟩
        rwa [Nat.add_assoc, Nat.add_comm 1] at h
      · cases h

/-! ### Payloads and files -/

lemma axis_eq_error (h : Load.axis fields = .error f) : f.kind = .badValue ∨
    f = .abort .pastCalendar ∧ ∃ s, DayText fields s ∧
      Iso.read (trim s.shape) = .error .pastCalendar := by
  rw [Load.axis] at h
  split at h
  · rename_i days hdays
    obtain ⟨raw, hmem, h⟩ := mapM_eq_error h
    refine (day_eq_error h).imp_right ?_
    rintro ⟨rfl, s, rfl, hs⟩
    exact ⟨rfl, s, .listed hdays hmem, hs⟩
  · split at h
    · rename_i a b ha hb
      -- the first day is read before the last
      rcases bind_eq_error.1 h with h | ⟨d, -, h⟩
      · refine (day_eq_error h).imp_right ?_
        rintro ⟨rfl, s, rfl, hs⟩
        exact ⟨rfl, s, .first ha, hs⟩
      rcases bind_eq_error.1 h with h | ⟨e, -, h⟩
      · refine (day_eq_error h).imp_right ?_
        rintro ⟨rfl, s, rfl, hs⟩
        exact ⟨rfl, s, .last hb, hs⟩
      split at h <;> cases h
      exact .inl rfl
    · cases h
      exact .inl rfl

lemma registry_eq_error (hj : j ≠ .null) (h : registry j = .error f) :
    f.kind = .badValue ∨ Blamed j f := by
  cases j with
  | object fields =>
    rw [registry] at h
    -- first the days, then the entries one by one
    rcases bind_eq_error.1 h with h | ⟨axis, -, h⟩
    · refine (axis_eq_error h).imp_right ?_
      rintro ⟨rfl, s, hs, hread⟩
      exact .pastCalendar hs hread
    split at h
    · rename_i js hjs
      rcases bind_eq_error.1 h with h | ⟨members, -, h⟩
      · obtain ⟨i, j, hi, h⟩ := entries_eq_error h
        refine (entry_eq_error h).imp_right ?_
        rintro ⟨own, rfl, hown⟩
        rw [Nat.zero_add] at hown
        exact .entry hjs hi hown
      · cases h
    · cases h
      exact .inl rfl
  | null => exact absurd rfl hj
  | _ =>
    cases h
    refine .inr (.noObject hj fun fields heq => ?_)
    cases heq

lemma file_eq_error {path : String} {text : Option (List Char)} (h : file path text = .error f) :
    f.kind = .badValue ∨ ∃ cs j, text = some cs ∧ Json.read cs = .ok j ∧ Blamed j f := by
  rw [file.eq_def] at h
  split at h
  · cases h
    exact .inl rfl
  · rename_i cs
    split at h
    · cases h
      exact .inl rfl
    · rename_i j hnull hread
      refine (registry_eq_error (fun hj => hnull (by rw [hj])) h).imp_right fun hblamed => ?_
      exact ⟨cs, j, rfl, hread, hblamed⟩
    · cases h
      exact .inl rfl
    · cases h
      exact .inl rfl

end Load

/-! ### The command -/

namespace Command

variable {env : Environment} {args : Arguments} {text : Option (List Char)} {settings : Settings}
  {f : LoadFault}

lemma run_of_file_eq_error (hs : Settings.ofEnvironment env = .ok settings)
    (hc : settings.conflict? = none) (hf : Load.file args.file text = .error f) :
    run env args text =
      if f.kind = .badValue then .ok (failed [f.message]) else .error (.load f) := by
  rw [run, hs]
  simp only [hc, hf]

lemma file_of_run_eq_error (h : run env args text = .error (.load f)) :
    Load.file args.file text = .error f ∧ f.kind ≠ .badValue := by
  rw [run] at h
  -- every other way out of a run has an error of its own kind
  split at h
  · cases h
  · split at h
    · cases h
    · split at h
      · rename_i g hg
        split at h
        · cases h
        · rename_i hkind
          cases h
          exact ⟨hg, hkind⟩
      · split at h
        · cases h
        · simp only at h
          split at h
          · cases h
          · split at h
            · rw [printValue] at h
              split at h
              · cases h
              · cases h
              · split at h <;> cases h
            · rw [printTemplate] at h
              split at h <;> cases h

/-- **A file is loaded or its fault is reported**, unless something in it is blamed for another
failure; and only then the command breaks off while it loads. -/
theorem run_of_file (env : Environment) (args : Arguments) (text : Option (List Char)) :
    ((∃ r, Load.file args.file text = .ok r) ∨ ∃ f, Load.file args.file text = .error f ∧
      (f.kind = .badValue ∨
        ∃ cs j, text = some cs ∧ Json.read cs = .ok j ∧ Load.Blamed j f)) ∧
    (∀ settings f, Settings.ofEnvironment env = .ok settings → settings.conflict? = none →
      Load.file args.file text = .error f → f.kind = .badValue →
      run env args text = .ok (failed [f.message])) ∧
    ∀ f, run env args text = .error (.load f) → Load.file args.file text = .error f ∧
      ∃ cs j, text = some cs ∧ Json.read cs = .ok j ∧ Load.Blamed j f := by
  refine ⟨?_, fun settings f hs hc hf hkind => ?_, fun f h => ?_⟩
  · rcases h : Load.file args.file text with f | r
    · exact .inr ⟨f, rfl, Load.file_eq_error h⟩
    · exact .inl ⟨r, rfl⟩
  · rw [run_of_file_eq_error hs hc hf, if_pos hkind]
  · obtain ⟨hf, hkind⟩ := file_of_run_eq_error h
    exact ⟨hf, (Load.file_eq_error hf).resolve_left hkind⟩

/-- The kind of the failure to load that the command breaks off for. -/
def Break.loadKind? : Break → Option LoadFault.Kind
  | .load f => some f.kind
  | _ => none

/-- The command without settings. -/
def runPlain (text : String) : Except Break Result :=
  run (fun _ => none) { file := "series.json", template := some "x" } (some text.toList)

lemma breaks_of_loadKind? {text : String} {k : LoadFault.Kind}
    (h : (errorOf? (runPlain text)).bind Break.loadKind? = some k) :
    ∃ f, runPlain text = .error (.load f) ∧ f.kind = k := by
  obtain ⟨b, hb, hk⟩ := Option.bind_eq_some_iff.1 h
  cases b with
  | load f => exact ⟨f, errorOf?_eq_some.1 hb, Option.some.inj hk⟩
  | _ => cases hk

/-- A file without an axis is reported, and a file that holds a list breaks the command off. -/
theorem run_of_file_empty :
    (∃ f, Load.file "series.json" (some "\x7b\x7d".toList) = .error f ∧ f.kind = .badValue ∧
      runPlain "\x7b\x7d" = .ok (failed [f.message])) ∧
    ∃ f, runPlain "[]" = .error (.load f) ∧
      ∃ cs j, some "[]".toList = some cs ∧ Json.read cs = .ok j ∧ Load.Blamed j f := by
  have hsettings : (Settings.ofEnvironment fun _ => none).toOption.map (·.conflict?) =
      some none := by decide +kernel
  obtain ⟨settings, hs, hc⟩ := Option.map_eq_some_iff.1 hsettings
  have hs := toOption_eq_some.1 hs
  have hloads := run_of_file (fun _ => none) { file := "series.json", template := some "x" }
  constructor
  · have hreported : (errorOf? (Load.file "series.json" (some "\x7b\x7d".toList))).map (·.kind) =
        some .badValue := by decide +kernel
    obtain ⟨f, hf, hkind⟩ := Option.map_eq_some_iff.1 hreported
    have hf := errorOf?_eq_some.1 hf
    exact ⟨f, hf, hkind, (hloads _).2.1 settings f hs hc hf hkind⟩
  · obtain ⟨f, hf, -⟩ := @breaks_of_loadKind? "[]" .badObject (by decide +kernel)
    exact ⟨f, hf, ((hloads _).2.2 f hf).2⟩

/-- A file that holds no object, values without items, or a date behind the calendar is neither
loaded nor reported. -/
theorem runPlain_breaks :
    (∃ f, runPlain "[]" = .error (.load f) ∧ f.kind = .badObject) ∧
    (∃ f, runPlain "\x7b\"dates\": [], \"series\": [\x7b\"values\": 5\x7d]\x7d" = .error (.load f) ∧
      f.kind = .badType) ∧
    ∃ f, runPlain "\x7b\"dates\": [\"9999-12-31T24:00\"], \"series\": []\x7d" = .error (.load f) ∧
      f.kind = .outOfRange := by
  refine ⟨breaks_of_loadKind? ?_, breaks_of_loadKind? ?_, breaks_of_loadKind? ?_⟩ <;> decide +kernel

end Command

end Daybook
