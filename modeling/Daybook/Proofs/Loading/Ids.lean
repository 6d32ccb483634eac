import Daybook.Proofs.Evaluation.Members
import Daybook.Proofs.Loading.Entries
import Daybook.Proofs.Number.Whole
import Daybook.Proofs.Reading.Signed

/-!
The ids of loaded series. An entry has the id that it gives, rounded to a whole number that a
double can be, and otherwise its position. Nobody asks whether another entry has the same id, and
of two that have it the second one cannot be reached.
-/

namespace Daybook

namespace Registry

variable {r : Registry} {c : Context} {id : Int} {i : ℕ} {s : Series}

/-- The call that looks up an id. -/
def lookUp (id : Int) : Expr :=
  .call datasetName [.signed (decide (id < 0)) (.int id.natAbs)]

/-- Every member is what its id leads to, in the registry and in an expression. -/
def Reaches (r : Registry) : Prop :=
  ∀ i s, r.members[i]? = some s → r.get? s.id = some (i, s) ∧
    ∀ c, (lookUp s.id).evaluate r c = .ok (.series s (.member i))

lemma evaluate_lookUp {x : Float} (hid : Number.round? x = some id)
    (h : r.get? id = some (i, s)) :
    (lookUp id).evaluate r c = .ok (.series s (.member i)) := by
  obtain ⟨y, hy, hwhole⟩ := Number.whole?_of_round? hid
  have hvalue : (Literal.int id.natAbs).toValue = .ok (.number y) := by
    rw [Literal.toValue, Summary.ofInt, hy]
  rw [lookUp, Expr.evaluate_dataset, Expr.evaluateAll_cons, Expr.evaluate_signed hvalue,
    Expr.evaluateAll_nil]
  exact ofFault_eq_ok.2 (dataset_eq_ok.2 ⟨_, id, i, s, rfl, hwhole, h, rfl⟩)

lemma reaches_iff_nodup (hid : ∀ s ∈ r.members, ∃ x, Number.round? x = some s.id) :
    r.Reaches ↔ (r.members.map (·.id)).Nodup := by
  rw [← get?_id_iff_nodup]
  refine ⟨fun h i s hs => (h i s hs).1, fun h i s hs => ⟨h i s hs, fun c => ?_⟩⟩
  obtain ⟨x, hx⟩ := hid s (List.mem_of_getElem? hs)
  exact evaluate_lookUp hx (h i s hs)

end Registry

namespace Load

open Number (pow2)

variable {axis : List Date} {own : List (Points × Json)} {js : List Json} {ss : List Series}
  {payload j : Json} {r : Registry} {s : Series} {id n : Int} {k : ℕ}

/-! ### The id of an entry -/

lemma round?_of_int? (h : int? j = .ok (some n)) : ∃ x, Number.round? x = some n := by
  obtain ⟨v, -, hv⟩ := bind_eq_ok.1 h
  obtain ⟨x, -, hx⟩ := Option.bind_eq_some_iff.1 (Except.ok.inj hv)
  exact ⟨x, hx⟩

lemma idOf_eq_ok : idOf own k = .ok id ↔
    int? ((Json.lookup "id" own).getD (.int k)) = .ok (some id) := by
  rw [idOf, bind_eq_ok]
  constructor
  · rintro ⟨_ | n, hn, h⟩ <;> cases h
    exact hn
  · exact fun h => ⟨some id, h, rfl⟩

lemma int?_int (hn : n.natAbs ≤ pow2 53) : int? (.int n) = .ok (some n) := by
  obtain ⟨x, hx, hround⟩ := Number.round?_ofInt? hn
  rw [int?, float?, hx]
  exact congrArg Except.ok hround

/-! ### The ids of all entries -/

/-- The id that the entry in a place gives. -/
def givenId? (js : List Json) (k : ℕ) : Option Json :=
  match js[k]? with
  | some (.object own) => Json.lookup "id" own
  | _ => none

/-- The series have the ids that their entries give, and else their positions, as whole numbers
next to a double. -/
structure Identified (js : List Json) (ss : List Series) : Prop where
  length : js.length = ss.length
  assigned : ∀ k s, ss[k]? = some s → int? ((givenId? js k).getD (.int k)) = .ok (some s.id)

lemma identified_of_entries (h : entries axis 0 js = .ok ss) : Identified js ss := by
  obtain ⟨hlength, hentry⟩ := entry_of_entries h
  refine ⟨hlength, fun k s hs => ?_⟩
  obtain ⟨j, hj, hs⟩ := hentry k s hs
  rw [Nat.zero_add] at hs
  cases j with
  | object own =>
    have hgiven : givenId? js k = Json.lookup "id" own := by rw [givenId?, hj]
    rw [hgiven]
    exact idOf_eq_ok.1 (idOf_of_entry hs)
  | _ => cases hs

/-- The given ids are whole numbers, and no two of them are the same. -/
structure DistinctIds (js : List Json) : Prop where
  whole : ∀ k raw, givenId? js k = some raw → ∃ n, raw = .int n
  distinct : ∀ i k n, givenId? js i = some (.int n) → givenId? js k = some (.int n) → i = k

/-- So few entries, and so small ids, that doubles tell them apart. -/
structure SmallIds (js : List Json) : Prop where
  length : js.length ≤ pow2 53
  ids : ∀ k n, givenId? js k = some (.int n) → n.natAbs ≤ pow2 53

lemma lt_of_givenId? {raw : Json} (h : givenId? js k = some raw) : k < js.length := by
  rw [givenId?] at h
  split at h
  · rename_i hj
    exact (List.getElem?_eq_some_iff.1 hj).1
  · cases h

lemma Identified.id_eq (h : Identified js ss) (hd : DistinctIds js) (hsmall : SmallIds js)
    (hk : k < ss.length) :
    givenId? js k = some (.int ss[k].id) ∨ givenId? js k = none ∧ ss[k].id = k := by
  have hid := h.assigned k _ (List.getElem?_eq_getElem hk)
  rcases hgiven : givenId? js k with _ | raw
  · have hposition : (k : ℤ).natAbs ≤ pow2 53 :=
      (Nat.le_of_lt (h.length ▸ hk)).trans hsmall.length
    rw [hgiven, Option.getD_none, int?_int hposition, Except.ok.injEq, Option.some_inj] at hid
    exact .inr ⟨rfl, hid.symm⟩
  · obtain ⟨n, rfl⟩ := hd.whole k raw hgiven
    rw [hgiven, Option.getD_some, int?_int (hsmall.ids k n hgiven), Except.ok.injEq,
      Option.some_inj] at hid
    exact .inl (by rw [hid])

lemma Identified.nodup_iff (h : Identified js ss) (hd : DistinctIds js) (hsmall : SmallIds js) :
    (ss.map (·.id)).Nodup ↔
      ∀ i k : ℕ, givenId? js i = some (.int k) → k < js.length → givenId? js k ≠ none := by
  constructor
  · intro hnodup i k hi hk hnone
    -- the entry at `i` gives the position of the one at `k`, which has it as its id
    have hi' : i < ss.length := h.length ▸ lt_of_givenId? hi
    have hk' : k < ss.length := h.length ▸ hk
    have hid : ss[i].id = k := by
      rcases h.id_eq hd hsmall hi' with hgiven | ⟨hleft, -⟩
      · exact Json.int.inj (Option.some.inj (hgiven.symm.trans hi))
      · cases hleft.symm.trans hi
    have hid' : ss[k].id = k := by
      rcases h.id_eq hd hsmall hk' with hgiven | ⟨-, hid⟩
      · cases hgiven.symm.trans hnone
      · exact hid
    have hsame : (ss.map (·.id))[i]? = (ss.map (·.id))[k]? := by
      rw [List.getElem?_map, List.getElem?_map, List.getElem?_eq_getElem hi',
        List.getElem?_eq_getElem hk', Option.map_some, Option.map_some, hid, hid']
    obtain rfl := (List.getElem?_inj (by simpa using hi') hnodup).1 hsame
    rw [hnone] at hi
    cases hi
  · intro hfree
    rw [List.Nodup, List.pairwise_map, List.pairwise_iff_getElem]
    intro i k hi hk hlt heq
    rcases h.id_eq hd hsmall hi with hgiven | ⟨hleft, hid⟩ <;>
      rcases h.id_eq hd hsmall hk with hgiven' | ⟨hleft', hid'⟩
    · rw [heq] at hgiven
      exact Nat.ne_of_lt hlt (hd.distinct i k _ hgiven hgiven')
    · rw [heq, hid'] at hgiven
      exact hfree i k hgiven (h.length ▸ hk) hleft'
    · rw [← heq, hid] at hgiven'
      exact hfree k i hgiven' (h.length ▸ hi) hleft
    · omega

lemma Identified.round? (h : Identified js ss) (hs : s ∈ ss) :
    ∃ x, Number.round? x = some s.id := by
  obtain ⟨k, hk, rfl⟩ := List.getElem_of_mem hs
  exact round?_of_int? (h.assigned k _ (List.getElem?_eq_getElem hk))

/-- **What can be reached.** In an accepted payload every series has the id that its entry gives,
or its position, as a double rounds it, and all of them can be reached exactly if no two ids are
the same. Of different whole numbers that are given, all small, this is so exactly if none is the
position of an entry that gives none. -/
theorem reaches_iff_of_registry (h : registry payload = .ok r) :
    (r.Reaches ↔ (r.members.map (·.id)).Nodup) ∧
    ∃ fields js, payload = .object fields ∧ Json.lookup "series" fields = some (.array js) ∧
      Identified js r.members ∧
      (DistinctIds js → SmallIds js → (r.Reaches ↔
        ∀ i k : ℕ, givenId? js i = some (.int k) → k < js.length → givenId? js k ≠ none)) := by
  obtain ⟨fields, js, hfields, -, hjs, hentries⟩ := registry_eq_ok h
  have hids := identified_of_entries hentries
  have hreaches : r.Reaches ↔ (r.members.map (·.id)).Nodup :=
    Registry.reaches_iff_nodup fun s hs => hids.round? hs
  exact ⟨hreaches, fields, js, hfields, hjs, hids,
    fun hd hsmall => hreaches.trans (hids.nodup_iff hd hsmall)⟩

/-! ### Two entries -/

lemma distinctIds_pair {a b : List (Points × Json)}
    (ha : ∀ raw, Json.lookup "id" a = some raw → ∃ n, raw = .int n)
    (hb : ∀ raw, Json.lookup "id" b = some raw → ∃ n, raw = .int n)
    (hab : ∀ n, Json.lookup "id" a = some (.int n) → Json.lookup "id" b ≠ some (.int n)) :
    DistinctIds [.object a, .object b] where
  whole k raw h := by
    rcases k with _ | _ | k
    · exact ha raw h
    · exact hb raw h
    · cases h
  distinct i k n hi hk := by
    rcases i with _ | _ | i <;> rcases k with _ | _ | k
    case zero.zero => rfl
    case zero.succ.zero => exact absurd hk (hab n hi)
    case succ.zero.zero => exact absurd hi (hab n hk)
    case succ.zero.succ.zero => rfl
    case zero.succ.succ | succ.zero.succ.succ => cases hk
    all_goals cases hi

/-- A payload of one day with the given entries. -/
def dayFields (js : List Json) : List (Points × Json) :=
  [("dates", .array [.text "2024-02-29"]), ("series", .array js)]

/-- The ids and values that a payload of one day is loaded with. -/
def loadedIds? (js : List Json) : Option (List (Int × List (Option Float))) :=
  (registry (.object (dayFields js))).toOption.map fun r => r.members.map fun s => (s.id, s.values)

/-- The second entry has an id that is behind its sign. -/
def spacedEntries : List Json := [
  .object [("values", .array [.int 5])],
  .object [("id", .int (-3)), ("values", .array [.int 7])]]

theorem reaches_iff_of_registry_spaced : ∃ r, registry (.object (dayFields spacedEntries)) = .ok r ∧
    DistinctIds spacedEntries ∧ SmallIds spacedEntries ∧ r.Reaches := by
  have hloaded : (registry (.object (dayFields spacedEntries))).toOption.isSome = true := by
    decide +kernel
  obtain ⟨r, hr⟩ := Option.isSome_iff_exists.1 hloaded
  have hr := toOption_eq_some.1 hr
  have hdistinct : DistinctIds spacedEntries :=
    distinctIds_pair nofun (fun raw h => ⟨-3, (Option.some.inj h).symm⟩) nofun
  have hsmall : SmallIds spacedEntries := by
    refine ⟨by decide, fun k n h => ?_⟩
    rcases k with _ | _ | k
    · cases h
    · cases h
      decide
    · cases h
  obtain ⟨-, fields, js, hfields, hjs, -, hreaches⟩ := reaches_iff_of_registry hr
  cases hfields
  cases hjs
  refine ⟨r, hr, hdistinct, hsmall, (hreaches hdistinct hsmall).2 fun i k h _ => ?_⟩
  rcases i with _ | _ | i <;> cases h

/-- The first of two series has the id of the second one, though no two given ids are the same. -/
def HidesSecond (js : List Json) : Prop :=
  DistinctIds js ∧ ∃ r s t, registry (.object (dayFields js)) = .ok r ∧ r.members = [s, t] ∧
    r.get? t.id = some (0, s) ∧ s.values = [some 5.0] ∧ t.values = [some 7.0] ∧ ¬ r.Reaches

lemma hidesSecond_of_loaded (id : Int) (hd : DistinctIds js)
    (h : loadedIds? js = some [(id, [some 5.0]), (id, [some 7.0])]) : HidesSecond js := by
  obtain ⟨r, hr, hmembers⟩ := Option.map_eq_some_iff.1 h
  obtain ⟨s, ss, hs, hsv, hss⟩ := List.map_eq_cons_iff.1 hmembers
  obtain ⟨t, rfl, htv⟩ := List.map_eq_singleton_iff.1 hss
  obtain ⟨hsid, hsvalues⟩ := Prod.mk.inj hsv
  obtain ⟨htid, htvalues⟩ := Prod.mk.inj htv
  have hget : r.get? t.id = some (0, s) :=
    Registry.get?_eq_some_iff.2 ⟨by rw [hs]; rfl, hsid.trans htid.symm, nofun⟩
  refine ⟨hd, r, s, t, toOption_eq_some.1 hr, hs, hget, hsvalues, htvalues, fun hreaches => ?_⟩
  have hown := (hreaches 1 t (by rw [hs]; rfl)).1
  rw [hget] at hown
  cases hown

/-- The second entry gives no id, and the first one gives its position. -/
def takenEntries : List Json := [
  .object [("id", .int 1), ("values", .array [.int 5])],
  .object [("values", .array [.int 7])]]

/-- Both entries give ids, which are one and the same double. -/
def mergedEntries : List Json := [
  .object [("id", .int 9007199254740992), ("values", .array [.int 5])],
  .object [("id", .int 9007199254740993), ("values", .array [.int 7])]]

/-- **Given ids that differ are not enough**: one may be the position of an entry that gives none,
and doubles do not tell all of them apart. -/
theorem hidesSecond_taken_merged : HidesSecond takenEntries ∧ HidesSecond mergedEntries := by
  constructor
  · refine hidesSecond_of_loaded 1 ?_ (by decide +kernel)
    exact distinctIds_pair (fun raw h => ⟨1, (Option.some.inj h).symm⟩) nofun nofun
  · refine hidesSecond_of_loaded 9007199254740992 ?_ (by decide +kernel)
    refine distinctIds_pair (fun raw h => ⟨_, (Option.some.inj h).symm⟩)
      (fun raw h => ⟨_, (Option.some.inj h).symm⟩) fun n h h' => ?_
    cases h
    cases h'

end Load

end Daybook
