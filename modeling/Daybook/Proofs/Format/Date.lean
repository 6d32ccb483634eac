import Daybook.Proofs.Format.Pattern
import Daybook.Proofs.Loading.Axis
import Daybook.Settings

/-!
Days in formats that name them in full: with dashes, as eight digits, and in the plain text that
has a name of its own. Each is read back as the day, from a payload and from the environment, with
whatever blanks around it.
-/

namespace Daybook

open Text Number

/-! ### Eight digits -/

namespace Date

variable (d : Date)

def compact : List Char := paddedNat 4 d.year ++ (paddedNat 2 d.month ++ paddedNat 2 d.day)

lemma isDigits_compact : IsDigits d.compact :=
  (isDigits_paddedNat _ _).append ((isDigits_paddedNat _ _).append (isDigits_paddedNat _ _))

lemma commonDate?_compact :
    Iso.commonDate? d.compact = some (((d.year : Int), (d.month : Int), (d.day : Int)), []) := by
  have hday : (paddedNat 2 d.day).take 2 = paddedNat 2 d.day :=
    List.take_of_length_le (Nat.le_of_eq d.length_day)
  have hrest : (paddedNat 2 d.day).drop 2 = [] :=
    List.drop_eq_nil_of_le (Nat.le_of_eq d.length_day)
  have hlen : ¬ d.compact.length < 4 := by
    rw [compact, List.length_append, d.length_year]
    omega
  have htake : d.compact.take 4 = paddedNat 4 d.year := List.take_left' d.length_year
  have hdrop : d.compact.drop 4 = paddedNat 2 d.month ++ paddedNat 2 d.day :=
    List.drop_left' d.length_year
  rw [Iso.commonDate?, if_neg hlen, htake, hdrop, Iso.field?_paddedNat]
  simp only [Option.bind_eq_bind, Option.bind_some]
  -- no dash among the digits, so the form without dashes is taken
  split
  · rename_i h
    have := congrArg List.length h
    rw [List.length_append, d.length_month] at this
    simp at this
  · rename_i rest h
    have hdash : '-' ∈ paddedNat 2 d.month ++ paddedNat 2 d.day := h ▸ List.mem_cons_self
    have := ((isDigits_paddedNat _ _).append (isDigits_paddedNat _ _)) '-' hdash
    cases this
  · simp [List.take_left' d.length_month, List.drop_left' d.length_month, d.length_day, hday,
      hrest, Iso.field?_paddedNat]

lemma read_compact : Iso.read d.compact = .ok d := by
  refine d.read_of_commonDate? (fun c hc => ?_) d.commonDate?_compact
  have := bounds_of_isDigit (d.isDigits_compact c hc)
  omega

end Date

/-! ### The formats -/

namespace Format

variable {format s t cs : List Char} {d : Date}

/-- The formats that name a day in full: two patterns and the one with a name of its own. -/
def NamesDay (format : List Char) : Prop :=
  trim format = "YYYY-MM-DD".toList ∨ trim format = "YYYYMMDD".toList ∨ isPlainName format = true

instance (format : List Char) : Decidable (NamesDay format) :=
  inferInstanceAs (Decidable (_ ∨ _ ∨ _))

lemma isPlain_of_isBlank {c : Char} (hc : isBlank c = true) : IsPlain c := by
  intro hmem
  have hletters : ['Y', 'M', 'D', 'o', 'd', 'H', 'h', 'm', 's', 'A', 'a', '[', ']'].all
      (fun c => !isBlank c) = true := by decide
  have hletter := List.all_eq_true.1 hletters c hmem
  rw [hc] at hletter
  cases hletter

lemma exists_moment_eq {m : Moment} (hcs : trim format = cs) (hclosed : Closes cs)
    (hname : lower cs ≠ "iso-8601".toList) : ∃ s t, (∀ c ∈ s, isBlank c = true) ∧
      (∀ c ∈ t, isBlank c = true) ∧ moment format m = s ++ (patternFrom m 0 cs ++ t) := by
  obtain ⟨s, t, hformat, hs, ht⟩ := exists_trim format
  have hpattern : isPlainName format = false := by
    rw [isPlainName, hcs, beq_eq_false_iff_ne]
    exact hname
  have hdivides : Divides t := fun c r h =>
    (isPlain_of_isBlank (ht c (h ▸ List.mem_cons_self))).continues_eq
  have hbehind : patternFrom m 0 t = t := by
    have h := patternFrom_plain_append (m := m) (g := []) fun c hc => isPlain_of_isBlank (ht c hc)
    rwa [List.append_nil, patternFrom, List.append_nil] at h
  refine ⟨s, t, hs, ht, ?_⟩
  rw [moment_of_pattern hpattern, hformat, hcs,
    patternFrom_plain_append fun c hc => isPlain_of_isBlank (hs c hc),
    patternFrom_append hclosed hdivides, hbehind]

lemma NamesDay.exists_moment_eq (hf : NamesDay format) (d : Date) : ∃ s cs t,
    (∀ c ∈ s, isBlank c = true) ∧ (∀ c ∈ t, isBlank c = true) ∧
      moment format (.day d) = s ++ (cs ++ t) ∧ (∀ c ∈ cs, isBlank c = false) ∧
      Iso.read cs = .ok d := by
  have hchars : ∀ c ∈ d.chars, isBlank c = false := fun c hc => by
    rcases d.isDigit_of_mem_chars hc with hc | rfl
    · exact isBlank_of_isDigit hc
    · decide
  -- the two patterns that spell a day, and the one format that is a name
  rcases hf with h | h | h
  · have hpattern : patternFrom (.day d) 0 "YYYY-MM-DD".toList = d.chars := by
      simp [patternFrom, firstToken, DateToken.chars, Date.chars, Moment.date]
    obtain ⟨s, t, hs, ht, heq⟩ := Format.exists_moment_eq (m := .day d) h (by decide) (by decide)
    exact ⟨s, d.chars, t, hs, ht, hpattern ▸ heq, hchars, d.read_chars⟩
  · have hpattern : patternFrom (.day d) 0 "YYYYMMDD".toList = d.compact := by
      simp [patternFrom, firstToken, DateToken.chars, Date.compact, Moment.date]
    obtain ⟨s, t, hs, ht, heq⟩ := Format.exists_moment_eq (m := .day d) h (by decide) (by decide)
    exact ⟨s, d.compact, t, hs, ht, hpattern ▸ heq,
      fun c hc => isBlank_of_isDigit (d.isDigits_compact c hc), d.read_compact⟩
  · refine ⟨[], d.chars, [], List.forall_mem_nil _, List.forall_mem_nil _, ?_, hchars,
      d.read_chars⟩
    rw [moment, h, List.nil_append, List.append_nil]
    rfl

lemma NamesDay.read_trim (hf : NamesDay format) (hs : ∀ c ∈ s, isBlank c = true)
    (ht : ∀ c ∈ t, isBlank c = true) (d : Date) :
    Iso.read (trim (s ++ (moment format (.day d) ++ t))) = .ok d := by
  obtain ⟨before, cs, after, hbefore, hafter, heq, hcs, hread⟩ := hf.exists_moment_eq d
  have hleft : ∀ c ∈ s ++ before, isBlank c = true := List.forall_mem_append.2 ⟨hs, hbefore⟩
  have hright : ∀ c ∈ after ++ t, isBlank c = true := List.forall_mem_append.2 ⟨hafter, ht⟩
  have hsplit : s ++ (moment format (.day d) ++ t) = (s ++ before) ++ (cs ++ (after ++ t)) := by
    rw [heq]
    simp only [List.append_assoc]
  rw [hsplit, trim_append hleft hright hcs, hread]

lemma dayOf_of_read {env : Environment} {name s : String} (hname : env name = some s)
    (h : Iso.read (trim s.toList) = .ok d) : Settings.dayOf env name = .ok (some d) := by
  have hne : trim s.toList ≠ [] := by
    intro hnil
    rw [hnil] at h
    cases h
  rw [Settings.dayOf, hname]
  simp only [if_neg hne, h]

/-- **A written day is read back.** In each of these formats the text of a day, with any blanks
around it, gives the day again: in a payload, whatever its field is, and in the environment, under
any name. So different days have different texts. -/
theorem day_readsBack (hf : NamesDay format) :
    (∀ d s t, (∀ c ∈ s, isBlank c = true) → (∀ c ∈ t, isBlank c = true) →
      (∀ field, Load.day field
        (.text (String.ofList (s ++ (moment format (.day d) ++ t)))) = .ok d) ∧
      ∀ env name, env name = some (String.ofList (s ++ (moment format (.day d) ++ t))) →
        Settings.dayOf env name = .ok (some d)) ∧
    Function.Injective fun d => moment format (.day d) := by
  constructor
  · intro d s t hs ht
    have hread := hf.read_trim hs ht d
    rw [← String.toList_ofList (l := s ++ (moment format (.day d) ++ t))] at hread
    exact ⟨Load.day_of_read (by rwa [Points.shape_ofString]),
      fun env name henv => dayOf_of_read henv hread⟩
  · intro d e heq
    have hread := hf.read_trim (List.forall_mem_nil _) (List.forall_mem_nil _)
    have hd := hread d
    rw [show moment format (.day d) = moment format (.day e) from heq, hread e] at hd
    exact (Except.ok.inj hd).symm

/-- A leap day of an early year as eight digits, in a format and a text with blanks. -/
theorem day_readsBack_early : NamesDay " YYYYMMDD".toList ∧
    Load.day "dates" (.text "\t 00040229") =
      .ok ⟨4, 2, 29, by decide, by decide, by decide, by decide, by decide, by decide⟩ ∧
    Settings.dayOf (fun _ => some "\t 00040229") "TRACKER_START_DATE" =
      .ok (some ⟨4, 2, 29, by decide, by decide, by decide, by decide, by decide, by decide⟩) := by
  have hf : NamesDay " YYYYMMDD".toList := by decide
  obtain ⟨hload, hset⟩ := (day_readsBack hf).1
    ⟨4, 2, 29, by decide, by decide, by decide, by decide, by decide, by decide⟩
    ['\t'] [] (List.forall_mem_singleton.2 (by decide)) (List.forall_mem_nil _)
  exact ⟨hf, hload "dates", hset (fun _ => some "\t 00040229") _ rfl⟩

end Format

end Daybook
