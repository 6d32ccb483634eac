import Daybook.Load
import Daybook.Proofs.Evaluation.Basic
import Daybook.Proofs.Series.Days

/-!
What a payload is loaded as: one series for each entry, in their order, on the axis of the
payload, with one value for each item of the values of its entry. The items are meant to be those
of a list, but what is not given counts as no items, and a text or an object is taken apart into
its characters or its keys.
-/

namespace Daybook

open Text

section Except

variable {ε α β : Type} {f : α → Except ε β}

lemma mapM_eq_ok {xs : List α} {ys : List β} :
    xs.mapM f = .ok ys ↔ List.Forall₂ (fun x y => f x = .ok y) xs ys := by
  induction xs generalizing ys with
  | nil => simp [pure, Except.pure, eq_comm (b := ys)]
  | cons x xs ih =>
    rw [List.mapM_cons, List.forall₂_cons_left_iff]
    simp only [bind_eq_ok, ih]
    constructor
    · rintro ⟨y, hy, zs, hzs, h⟩
      cases h
      exact ⟨y, zs, hy, hzs, rfl⟩
    · rintro ⟨y, zs, hy, hzs, rfl⟩
      exact ⟨y, hy, zs, hzs, rfl⟩

lemma mapM_eq_error {xs : List α} {e : ε} (h : xs.mapM f = .error e) :
    ∃ x ∈ xs, f x = .error e := by
  induction xs with
  | nil => cases h
  | cons x xs ih =>
    rw [List.mapM_cons] at h
    rcases bind_eq_error.1 h with hx | ⟨y, -, hxs⟩
    · exact ⟨x, List.mem_cons_self, hx⟩
    · rcases bind_eq_error.1 hxs with hxs | ⟨ys, -, hys⟩
      · obtain ⟨z, hz, he⟩ := ih hxs
        exact ⟨z, List.mem_cons_of_mem x hz, he⟩
      · cases hys

end Except

/-! ### Values -/

namespace Json

/-- The double that a number is, or that a text reads as. -/
inductive Numeric : Json → Float → Prop
  | int {n : Int} {x : Float} : Number.ofInt? n = some x → Numeric (.int n) x
  | float (x : Float) : Numeric (.float x) x
  | text {s : Points} {x : Float} : Number.ofText? s.shape = some x → Numeric (.text s) x

/-- What an item puts on its day: null leaves the day absent, a number is the value of the day. -/
inductive Marks : Json → Option Float → Prop
  | absent : Marks .null none
  | present {raw : Json} {x : Float} : Numeric raw x → Marks raw (some x)

end Json

namespace Load

variable {axis : List Date} {fields : List (Points × Json)} {j raw : Json} {s : Series}
  {r : Registry}

lemma numeric_of_float? {x : Float} (h : float? raw = .ok (some x)) : raw.Numeric x := by
  cases raw with
  | int n =>
    rw [float?] at h
    split at h
    · rename_i y hy
      cases h
      exact .int hy
    · cases h
  | float y =>
    cases h
    exact .float x
  | text s =>
    rw [float?, Except.ok.injEq] at h
    exact .text h
  | _ => cases h

lemma marks_of_value {id : Int} {v : Option Float} (h : value id raw = .ok v) : raw.Marks v := by
  rw [value.eq_def] at h
  split at h
  · cases h
    exact .absent
  · obtain ⟨x, hx, h⟩ := bind_eq_ok.1 h
    cases x with
    | none => cases h
    | some x =>
      cases h
      exact .present (numeric_of_float? hx)

/-- The values of an entry as they are meant: a list of items. They are left out only where the
axis has no days. -/
def Given (axis : List Date) (raw : Option Json) (items : List Json) : Prop :=
  raw = some (.array items) ∨ (raw = none ∨ raw = some .null) ∧ items = [] ∧ axis = []

/-- What is taken for a list of items without being one. -/
inductive Mistaken : Json → List Json → Prop
  | text (s : Points) : Mistaken (.text s) (s.map fun p => .text [p])
  | object (fs : List (Points × Json)) : Mistaken (.object fs) (fs.map fun f => .text f.1)
  | false : Mistaken (.bool false) []
  | zero : Mistaken (.int 0) []
  | floatZero {x : Float} : (x == 0.0) = true → Mistaken (.float x) []

lemma itemsOf_eq_ok {items : List Json} (h : itemsOf raw = .ok items) :
    raw = .array items ∨ raw = .null ∧ items = [] ∨ Mistaken raw items := by
  rw [itemsOf.eq_def] at h
  split at h
  · cases h
    exact .inl rfl
  · cases h
    exact .inr (.inr (.text _))
  · cases h
    exact .inr (.inr (.object _))
  · split at h
    · cases h
    · -- what is not given counts as an empty list, whatever it is
      rename_i hgiven
      cases h
      cases raw with
      | null => exact .inr (.inl ⟨rfl, rfl⟩)
      | bool b =>
        cases b
        · exact .inr (.inr .false)
        · exact absurd rfl hgiven
      | int n =>
        have hn : n = 0 := by simpa [Json.isGiven] using hgiven
        exact .inr (.inr (hn ▸ .zero))
      | float x => exact .inr (.inr (.floatZero (by simpa [Json.isGiven] using hgiven)))
      | _ => simp_all

lemma given_or_mistaken {own : Option Json} {items : List Json}
    (h : itemsOf (own.getD .null) = .ok items) (hlength : items.length = axis.length) :
    Given axis own items ∨ ∃ raw, own = some raw ∧ Mistaken raw items := by
  have hnil : items = [] → axis = [] := by
    rintro rfl
    exact List.eq_nil_of_length_eq_zero hlength.symm
  rcases own with _ | raw
  · cases h
    exact .inl (.inr ⟨.inl rfl, rfl, hnil rfl⟩)
  · rcases itemsOf_eq_ok h with hraw | ⟨hraw, hitems⟩ | hmistaken
    · exact .inl (.inl (congrArg some hraw))
    · exact .inl (.inr ⟨.inr (congrArg some hraw), hitems, hnil hitems⟩)
    · exact .inr ⟨raw, rfl, hmistaken⟩

/-! ### Entries -/

/-- The series holds what the entry says: it is on the axis and has for every day the value that
the item in that place puts there. The items are those of a list, or what is taken for one. -/
def Entered (axis : List Date) (j : Json) (s : Series) : Prop :=
  ∃ own items, j = .object own ∧
    (Given axis (Json.lookup "values" own) items ∨
      ∃ raw, Json.lookup "values" own = some raw ∧ Mistaken raw items) ∧
    s.dates = axis ∧ items.length = axis.length ∧
    ∀ k item, items[k]? = some item → Json.Marks item (s.valueOn k)

lemma valueOn_zipEntries {values : List (Option Float)} {v : Option Float} {k : ℕ}
    (h : values.length = axis.length) (hv : values[k]? = some v)
    (hs : s.entries = Series.zipEntries axis values) : s.valueOn k = v := by
  obtain ⟨hk, rfl⟩ := List.getElem?_eq_some_iff.1 hv
  have hday : axis[k]? = some axis[k] := List.getElem?_eq_getElem (h ▸ hk)
  simp [Series.valueOn, hs, Series.zipEntries, List.getElem?_zipWith, hv, hday]

/-- The id of an entry; one without an id has its place as the id. -/
def idOf (own : List (Points × Json)) (position : ℕ) : Loaded Int :=
  int? ((Json.lookup "id" own).getD (.int position)) >>= fun
    | some id => .ok id
    | none => .error (.invalidId position)

/-- The series of an entry whose id and values are read. -/
def seriesOf (axis : List Date) (own : List (Points × Json)) (id : Int)
    (values : List (Option Float)) : Loaded Series :=
  if values.length ≠ axis.length then .error (.wrongLength id values.length axis.length)
  else
    measure (Json.lookup "value_kind" own) >>= fun m =>
      int? ((Json.lookup "target_count" own).getD .null) >>= fun targets =>
        .ok {
          entries := Series.zipEntries axis values
          id
          name := match Json.lookup "name" own with
            | some j => if j.isGiven then j.asName else Registry.defaultName id
            | none => Registry.defaultName id
          measure := m
          usedAsX := ((Json.lookup "x_axis" own).map Json.isGiven).getD false
          targets := targets.getD 0 }

lemma entry_object (own : List (Points × Json)) (position : ℕ) :
    entry axis position (.object own) = idOf own position >>= fun id =>
      itemsOf ((Json.lookup "values" own).getD .null) >>= fun items =>
        items.mapM (value id) >>= seriesOf axis own id := by
  rw [entry, idOf, bind_assoc]
  congr 1
  funext id?
  cases id? <;> rfl

lemma of_seriesOf {own : List (Points × Json)} {id : Int} {values : List (Option Float)}
    (h : seriesOf axis own id values = .ok s) :
    values.length = axis.length ∧ s.entries = Series.zipEntries axis values ∧ s.id = id := by
  rw [seriesOf] at h
  split at h
  · cases h
  · rename_i hlength
    obtain ⟨m, -, h⟩ := bind_eq_ok.1 h
    obtain ⟨targets, -, h⟩ := bind_eq_ok.1 h
    cases h
    exact ⟨not_not.1 hlength, rfl, rfl⟩

lemma idOf_of_entry {own : List (Points × Json)} {position : ℕ}
    (h : entry axis position (.object own) = .ok s) : idOf own position = .ok s.id := by
  rw [entry_object] at h
  obtain ⟨id, hid, h⟩ := bind_eq_ok.1 h
  obtain ⟨items, -, h⟩ := bind_eq_ok.1 h
  obtain ⟨values, -, h⟩ := bind_eq_ok.1 h
  rw [hid, (of_seriesOf h).2.2]

lemma entered_of_entry {position : ℕ} (h : entry axis position j = .ok s) : Entered axis j s := by
  cases j with
  | object own =>
    rw [entry_object] at h
    obtain ⟨id, -, h⟩ := bind_eq_ok.1 h
    obtain ⟨items, hitems, h⟩ := bind_eq_ok.1 h
    obtain ⟨values, hvalues, h⟩ := bind_eq_ok.1 h
    obtain ⟨hlength, hentries, -⟩ := of_seriesOf h
    have hmarks := mapM_eq_ok.1 hvalues
    have hcount : items.length = axis.length := hmarks.length_eq.trans hlength
    refine ⟨own, items, rfl, given_or_mistaken hitems hcount, ?_, hcount, fun k item hk => ?_⟩
    · rw [Series.dates, hentries, Series.dates_zipEntries hlength]
    · obtain ⟨hlt, rfl⟩ := List.getElem?_eq_some_iff.1 hk
      have hlt' : k < values.length := hmarks.length_eq ▸ hlt
      have hvalue := valueOn_zipEntries hlength (List.getElem?_eq_getElem hlt') hentries
      rw [hvalue]
      exact marks_of_value (hmarks.get hlt hlt')
  | _ => cases h

lemma entry_of_entries {position : ℕ} {js : List Json} {ss : List Series}
    (h : entries axis position js = .ok ss) : js.length = ss.length ∧
      ∀ k s, ss[k]? = some s → ∃ j, js[k]? = some j ∧ entry axis (position + k) j = .ok s := by
  induction js generalizing position ss with
  | nil =>
    cases h
    refine ⟨rfl, fun k s hs => ?_⟩
    cases hs
  | cons j js ih =>
    rw [entries] at h
    obtain ⟨s, hs, h⟩ := bind_eq_ok.1 h
    obtain ⟨ss, hss, h⟩ := bind_eq_ok.1 h
    cases h
    obtain ⟨hlength, hrest⟩ := ih hss
    refine ⟨congrArg Nat.succ hlength, fun k t ht => ?_⟩
    -- the position is the one of the first entry, moved on by one for each
    cases k with
    | zero =>
      cases ht
      refine ⟨j, rfl, ?_⟩
      rwa [Nat.add_zero]
    | succ k =>
      obtain ⟨i, hi, ht⟩ := hrest k t ht
      refine ⟨i, hi, ?_⟩
      rwa [Nat.add_assoc, Nat.add_comm 1] at ht

lemma forall₂_entries {position : ℕ} {js : List Json} {ss : List Series}
    (h : entries axis position js = .ok ss) : List.Forall₂ (Entered axis) js ss := by
  obtain ⟨hlength, hentry⟩ := entry_of_entries h
  refine List.forall₂_iff_get.2 ⟨hlength, fun k hj hs => ?_⟩
  obtain ⟨j, hk, hentered⟩ := hentry k _ (List.getElem?_eq_getElem hs)
  obtain rfl : js[k] = j := by rwa [List.getElem?_eq_getElem hj, Option.some_inj] at hk
  exact entered_of_entry hentered

/-! ### Payloads -/

lemma registry_eq_ok {payload : Json} (h : registry payload = .ok r) :
    ∃ fields js, payload = .object fields ∧ Load.axis fields = .ok r.axis ∧
      Json.lookup "series" fields = some (.array js) ∧ entries r.axis 0 js = .ok r.members := by
  cases payload with
  | object fields =>
    rw [registry] at h
    obtain ⟨axis, haxis, h⟩ := bind_eq_ok.1 h
    split at h
    · rename_i js hjs
      obtain ⟨members, hmembers, h⟩ := bind_eq_ok.1 h
      cases h
      exact ⟨fields, js, rfl, haxis, hjs, hmembers⟩
    · cases h
  | _ => cases h

/-- **Every value comes from an item.** An accepted payload has an entry for each series, in the
same order, and a payload with an entry that cannot be entered is refused. -/
theorem entered_of_registry (payload : Json) :
    (∀ r, registry payload = .ok r → ∃ fields js, payload = .object fields ∧
      Json.lookup "series" fields = some (.array js) ∧
      List.Forall₂ (Entered r.axis) js r.members) ∧
    ∀ fields js axis, payload = .object fields → Json.lookup "series" fields = some (.array js) →
      Load.axis fields = .ok axis → (∃ j ∈ js, ∀ s, ¬ Entered axis j s) →
      ∃ f, registry payload = .error f := by
  have haccepted : ∀ r, registry payload = .ok r → ∃ fields js, payload = .object fields ∧
      Load.axis fields = .ok r.axis ∧ Json.lookup "series" fields = some (.array js) ∧
      List.Forall₂ (Entered r.axis) js r.members := by
    intro r h
    obtain ⟨fields, js, hfields, haxis, hjs, hentries⟩ := registry_eq_ok h
    exact ⟨fields, js, hfields, haxis, hjs, forall₂_entries hentries⟩
  refine ⟨fun r h => ?_, fun fields js axis hfields hjs haxis hj => ?_⟩
  · obtain ⟨fields, js, hfields, -, hjs, hentered⟩ := haccepted r h
    exact ⟨fields, js, hfields, hjs, hentered⟩
  · rcases hr : registry payload with f | r
    · exact ⟨f, rfl⟩
    · obtain ⟨fields', js', hfields', haxis', hjs', hentered⟩ := haccepted r hr
      cases hfields.symm.trans hfields'
      cases haxis.symm.trans haxis'
      cases hjs.symm.trans hjs'
      -- an accepted payload has a series for each entry, also for the wrong one
      obtain ⟨j, hmem, hnone⟩ := hj
      obtain ⟨i, hi, rfl⟩ := List.getElem_of_mem hmem
      exact absurd (hentered.get hi (hentered.length_eq ▸ hi)) (hnone _)

/-- The last two days of a February with two series, one of them without an id. -/
def februaryFields : List (Points × Json) := [
  ("dates", .array [.text "2024-02-28", .text "2024-02-29"]),
  ("series", .array [
    .object [("values", .array [.null, .text " 7.5"])],
    .object [("id", .int 4), ("values", .array [.int 3, .float 0.25])]])]

def shortEntry : Json := .object [("values", .array [.int 3])]

def shortFields : List (Points × Json) := [
  ("dates", .array [.text "2024-02-28", .text "2024-02-29"]), ("series", .array [shortEntry])]

theorem entered_of_registry_february :
    (∃ r, registry (.object februaryFields) = .ok r ∧ ∃ fields js,
      Json.object februaryFields = .object fields ∧
      Json.lookup "series" fields = some (.array js) ∧
      List.Forall₂ (Entered r.axis) js r.members) ∧
    ∃ f, registry (.object shortFields) = .error f := by
  have haccepted : (registry (.object februaryFields)).toOption.isSome = true := by decide +kernel
  obtain ⟨r, hr⟩ := Option.isSome_iff_exists.1 haccepted
  have hr := toOption_eq_some.1 hr
  have haxis : (Load.axis shortFields).toOption.map List.length = some 2 := by decide +kernel
  obtain ⟨axis, haxis, hlength⟩ := Option.map_eq_some_iff.1 haxis
  refine ⟨⟨r, hr, (entered_of_registry _).1 r hr⟩,
    (entered_of_registry _).2 shortFields [shortEntry] axis rfl
      (by simp [shortFields, Json.lookup]) (toOption_eq_some.1 haxis)
      ⟨shortEntry, List.mem_cons_self, ?_⟩⟩
  rintro s ⟨own, items, hown, hitems, -, hcount, -⟩
  cases hown
  simp only [Json.lookup, if_true, Option.some.injEq] at hitems
  rcases hitems with (h | ⟨h | h, -⟩) | ⟨raw, rfl, h⟩
  · cases h
    rw [hlength] at hcount
    cases hcount
  · cases h
  · cases h
  · cases h

/-- A day with a text in the place of a list of values. -/
def digitFields : List (Points × Json) := [
  ("dates", .array [.text "2024-02-29"]), ("series", .array [.object [("values", .text "7")]])]

/-- The text is taken apart: its one digit becomes the value of the one day. -/
theorem entered_of_digit : ∃ r s, registry (.object digitFields) = .ok r ∧ r.members = [s] ∧
    r.axis.length = 1 ∧ s.valueOn 0 = some 7.0 ∧
    ∀ items, ¬ Given r.axis (some (.text "7")) items := by
  have hloaded : (registry (.object digitFields)).toOption.map
      (fun r => (r.axis.length, r.members.map (·.valueOn 0))) = some (1, [some 7.0]) := by
    decide +kernel
  obtain ⟨r, hr, hloaded⟩ := Option.map_eq_some_iff.1 hloaded
  obtain ⟨haxis, hmembers⟩ := Prod.mk.inj hloaded
  obtain ⟨s, hs, hvalue⟩ := List.map_eq_singleton_iff.1 hmembers
  refine ⟨r, s, toOption_eq_some.1 hr, hs, haxis, hvalue, ?_⟩
  rintro items (h | ⟨h | h, -⟩) <;> cases h

end Load

end Daybook
