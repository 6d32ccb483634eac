import Daybook.Proofs.Format.BraceFree
import Daybook.Proofs.Template.Placeholder
import Daybook.Proofs.Template.Resolve

/-!
What is written in place of the placeholders of a template. Rendering writes one value after the
other, each over all that reads like its placeholder; a value that is written has no braces,
unless it is a date and the default format of dates has some.
-/

namespace Daybook

open Text

/-! ### What stands in place of a placeholder -/

namespace Placeholder

variable (r : Registry) (c : Context)

/-- The value of a placeholder as it is written, if it is a number or a moment that its format
fits. -/
def formatted? (p : Placeholder) : Option (List Char) :=
  match p.value r c with
  | .ok v => v.scalar?.bind fun x => (x.write c.dateFormat.toList p.format).toOption
  | .error _ => none

/-- What a placeholder is replaced by: its written value, or itself if there is none or if nothing
is written. -/
def shown (p : Placeholder) : List Char :=
  match p.formatted? r c with
  | some (d :: ds) => d :: ds
  | _ => p.source

/-- Writes the value of a placeholder over all that reads like the placeholder. -/
def overwrite (p : Placeholder) (text : List Char) : List Char :=
  match p.formatted? r c with
  | some (d :: ds) => replaceAll p.source (d :: ds) text
  | _ => text

/-- The default format of dates writes no braces here. -/
def PlainDates (p : Placeholder) : Prop :=
  p.format = none → ∀ m, p.value r c = .ok (.moment m) →
    BraceFree (Format.moment c.dateFormat.toList m)

variable {r c} {p : Placeholder} {w : List Char}

lemma plainDates_of_braceFree (h : BraceFree c.dateFormat.toList) : p.PlainDates r c :=
  fun _ m _ => Format.braceFree_moment h m

lemma formatted?_eq (p : Placeholder) : p.formatted? r c =
    (p.resolved? r c).bind fun x => (x.value.write c.dateFormat.toList x.format).toOption := by
  rw [formatted?, resolved?]
  cases p.value r c with
  | error stop => rfl
  | ok v => simp only [Option.bind_map, Function.comp_def]

lemma Proper.braceFree_write (hp : p.Proper) {x : Scalar} {default : List Char}
    (hd : p.format = none → ∀ m, x = .moment m → BraceFree (Format.moment default m))
    (h : x.write default p.format = .ok w) : BraceFree w := by
  cases hf : p.format with
  | none =>
    rw [hf] at h
    cases x with
    | number x =>
      cases h
      exact Number.braceFree_styled _ _ _ _
    | moment m =>
      cases h
      exact hd hf m rfl
  | some f =>
    -- the format has no braces, and what is written for it brings none
    obtain ⟨hne, hbf⟩ := hp.braceFree_format hf
    have hgiven : Format.given? (some f) = some f := by
      cases f with
      | nil => exact absurd rfl hne
      | cons => rfl
    rw [hf] at h
    cases x with
    | number x =>
      simp only [Scalar.write, Format.numberText, hgiven] at h
      split at h
      · rename_i hw
        cases h
        exact Format.braceFree_number hbf hw
      · cases h
    | moment m =>
      simp only [Scalar.write, Format.momentText, hgiven] at h
      cases h
      exact Format.braceFree_moment hbf m

lemma Proper.braceFree_formatted (hp : p.Proper) (hd : p.PlainDates r c)
    (h : p.formatted? r c = some w) : BraceFree w := by
  rw [formatted?] at h
  split at h
  · rename_i v hv
    obtain ⟨x, hx, hw⟩ := Option.bind_eq_some_iff.1 h
    have hwrite : x.write c.dateFormat.toList p.format = .ok w := by
      cases hxw : x.write c.dateFormat.toList p.format with
      | error f => rw [hxw] at hw; cases hw
      | ok u => rw [hxw] at hw; cases hw; rfl
    refine hp.braceFree_write (fun hf m hm => hd hf m ?_) hwrite
    rw [hv]
    subst hm
    cases v <;> cases hx
    rfl
  · cases h

lemma Proper.shown_cases (hp : p.Proper) (hd : p.PlainDates r c) :
    p.shown r c = p.source ∨ p.shown r c ≠ [] ∧ BraceFree (p.shown r c) := by
  rw [shown]
  split
  · rename_i d ds h
    exact .inr ⟨List.cons_ne_nil d ds, hp.braceFree_formatted hd h⟩
  · exact .inl rfl

lemma Proper.overwrite_cases (hp : p.Proper) (hd : p.PlainDates r c) (text : List Char) :
    (p.overwrite r c text = replaceAll p.source (p.shown r c) text ∧ p.shown r c ≠ p.source ∧
      BraceFree (p.shown r c)) ∨ (p.overwrite r c text = text ∧ p.shown r c = p.source) := by
  rw [overwrite, shown]
  split
  · rename_i d ds h
    have hbf := hp.braceFree_formatted hd h
    refine .inl ⟨rfl, fun hsame => ?_, hbf⟩
    obtain ⟨body, hbody, -⟩ := hp.source_eq
    rw [hsame, hbody] at hbf
    exact absurd hbf (by simp [braced, isBrace])
  · exact .inr ⟨rfl, rfl⟩

end Placeholder

namespace Template

open Placeholder

/-- Writes the values of the placeholders one after the other. -/
def overwriteAll (r : Registry) (c : Context) (ps : List Placeholder) (text : List Char) :
    List Char :=
  ps.foldl (fun t p => p.overwrite r c t) text

variable {r : Registry} {c : Context} {ps : List Placeholder} {text cs : List Char}

@[simp] lemma overwriteAll_nil : overwriteAll r c [] text = text := rfl

@[simp] lemma overwriteAll_cons (p : Placeholder) :
    overwriteAll r c (p :: ps) text = overwriteAll r c ps (p.overwrite r c text) := rfl

lemma fill_eq_overwriteAll
    (h : fill c.dateFormat.toList (ps.filterMap (·.resolved? r c)) text = .ok cs) :
    cs = overwriteAll r c ps text := by
  induction ps generalizing text with
  | nil =>
    cases h
    rfl
  | cons p ps ih =>
    rw [overwriteAll_cons]
    cases hr : p.resolved? r c with
    | none =>
      have hsame : p.overwrite r c text = text := by rw [overwrite, formatted?_eq, hr]; rfl
      rw [List.filterMap_cons, hr] at h
      rw [hsame]
      exact ih h
    | some x =>
      rw [List.filterMap_cons, hr] at h
      obtain ⟨w, hw, h⟩ := bind_eq_ok.1 h
      -- an empty text replaces nothing
      have hover : p.overwrite r c text =
          if w = [] then text else replaceAll p.source w text := by
        rw [overwrite, formatted?_eq, hr, Option.bind_some, hw]
        cases w <;> rfl
      rw [source_of_resolved? hr, ← hover] at h
      exact ih h

lemma isSome_formatted?
    (h : fill c.dateFormat.toList (ps.filterMap (·.resolved? r c)) text = .ok cs)
    {p : Placeholder} (hp : p ∈ ps) (hr : (p.resolved? r c).isSome = true) :
    (p.formatted? r c).isSome = true := by
  induction ps generalizing text with
  | nil => cases hp
  | cons q ps ih =>
    cases hq : q.resolved? r c with
    | none =>
      rw [List.filterMap_cons, hq] at h
      -- the one that fails to resolve is not the one asked for
      rcases List.mem_cons.1 hp with rfl | hp
      · rw [hq] at hr
        cases hr
      · exact ih h hp
    | some x =>
      rw [List.filterMap_cons, hq] at h
      obtain ⟨w, hw, h⟩ := bind_eq_ok.1 h
      rcases List.mem_cons.1 hp with rfl | hp
      · rw [formatted?_eq, hq, Option.bind_some, hw]
        rfl
      · exact ih h hp

end Template

end Daybook
