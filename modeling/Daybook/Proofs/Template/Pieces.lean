import Daybook.Proofs.Template.Placeholder

/-!
A template as a list of pieces, its placeholders and the characters of the plain text between
them. The pieces put together again are the template, and writing something else in place of
the placeholders touches nothing but them.
-/

namespace Daybook

/-- A character of the plain text of a template, or a placeholder. -/
inductive Piece
  | plain (c : Char)
  | hole (p : Placeholder)
  deriving DecidableEq

namespace Template

/-- The pieces of a text, from the left. The number counts the characters of the last placeholder
that are still to be passed over. -/
def piecesFrom : ℕ → List Char → List Piece
  | _, [] => []
  | n + 1, _ :: cs => piecesFrom n cs
  | 0, c :: cs =>
    match Placeholder.first? (c :: cs) with
    | some p => .hole p :: piecesFrom (p.source.length - 1) cs
    | none => .plain c :: piecesFrom 0 cs

def pieces (cs : List Char) : List Piece := piecesFrom 0 cs

/-- The text of pieces, with something written in place of the placeholders. -/
def assemble (f : Placeholder → List Char) (ps : List Piece) : List Char :=
  ps.flatMap fun
    | .plain c => [c]
    | .hole p => f p

section assemble

variable {f g : Placeholder → List Char} {ps qs : List Piece} {c : Char} {p : Placeholder}

@[simp] lemma assemble_nil : assemble f [] = [] := rfl

@[simp] lemma assemble_plain : assemble f (.plain c :: ps) = c :: assemble f ps := rfl

@[simp] lemma assemble_hole : assemble f (.hole p :: ps) = f p ++ assemble f ps := rfl

@[simp] lemma assemble_append : assemble f (ps ++ qs) = assemble f ps ++ assemble f qs :=
  List.flatMap_append

lemma braceFree_of_mem_assemble (h : Text.BraceFree (assemble f ps)) (hp : .hole p ∈ ps) :
    Text.BraceFree (f p) :=
  h.subset fun _ hc => List.mem_flatMap.2 ⟨.hole p, hp, hc⟩

lemma assemble_congr (h : ∀ p, .hole p ∈ ps → f p = g p) : assemble f ps = assemble g ps := by
  refine List.flatMap_congr fun x hx => ?_
  cases x with
  | plain c => rfl
  | hole p => exact h p hx

end assemble

/-- Pieces as they can be cut from a text: the placeholders are proper, and nowhere in the plain
text another one begins. -/
inductive Scanned : List Piece → Prop
  | nil : Scanned []
  | plain {c : Char} {ps : List Piece} :
      Placeholder.first? (c :: assemble (·.source) ps) = none → Scanned ps →
      Scanned (.plain c :: ps)
  | hole {p : Placeholder} {ps : List Piece} : p.Proper → Scanned ps → Scanned (.hole p :: ps)

lemma assemble_piecesFrom (n : ℕ) (cs : List Char) :
    assemble (·.source) (piecesFrom n cs) = cs.drop n := by
  induction cs generalizing n with
  | nil => cases n <;> rfl
  | cons c cs ih =>
    cases n with
    | succ n => exact ih n
    | zero =>
      rw [piecesFrom]
      split
      · rename_i p hp
        obtain ⟨hproper, t, ht⟩ := Placeholder.first?_eq_some.1 hp
        obtain ⟨body, hbody, -⟩ := hproper.source_eq
        have hcs : cs.drop (p.source.length - 1) = t := by
          rw [hbody] at ht ⊢
          rw [← (List.cons.inj ht).2]
          exact List.drop_left
        rw [assemble_hole, ih, hcs, List.drop_zero, ht]
      · rw [assemble_plain, ih, List.drop_zero, List.drop_zero]

lemma assemble_pieces (cs : List Char) : assemble (·.source) (pieces cs) = cs :=
  assemble_piecesFrom 0 cs

lemma scanned_piecesFrom (n : ℕ) (cs : List Char) : Scanned (piecesFrom n cs) := by
  induction cs generalizing n with
  | nil => cases n <;> exact .nil
  | cons c cs ih =>
    cases n with
    | succ n => exact ih n
    | zero =>
      rw [piecesFrom]
      split
      · rename_i p hp
        exact .hole (Placeholder.first?_eq_some.1 hp).1 (ih _)
      · rename_i hp
        refine .plain ?_ (ih 0)
        rwa [assemble_piecesFrom, List.drop_zero]

lemma scanned_pieces (cs : List Char) : Scanned (pieces cs) := scanned_piecesFrom 0 cs

lemma Scanned.proper {ps : List Piece} (h : Scanned ps) {p : Placeholder} (hp : .hole p ∈ ps) :
    p.Proper := by
  induction h with
  | nil => cases hp
  | plain _ _ ih =>
    rcases List.mem_cons.1 hp with hp | hp
    · cases hp
    · exact ih hp
  | hole hproper _ ih =>
    rcases List.mem_cons.1 hp with hp | hp
    · cases hp
      exact hproper
    · exact ih hp

/-- The placeholders of a list of pieces. -/
def holes (ps : List Piece) : List Placeholder :=
  ps.filterMap fun
    | .plain _ => none
    | .hole p => some p

@[simp] lemma holes_plain {c : Char} {ps : List Piece} : holes (.plain c :: ps) = holes ps := rfl

@[simp] lemma holes_hole {p : Placeholder} {ps : List Piece} :
    holes (.hole p :: ps) = p :: holes ps := rfl

lemma mem_holes {p : Placeholder} {ps : List Piece} : p ∈ holes ps ↔ .hole p ∈ ps := by
  induction ps with
  | nil => simp [holes]
  | cons x ps ih => cases x <;> simp [ih]

lemma holes_piecesFrom (n : ℕ) (cs : List Char) :
    holes (piecesFrom n cs) = Placeholder.scan n cs := by
  induction cs generalizing n with
  | nil => cases n <;> rfl
  | cons c cs ih =>
    cases n with
    | succ n => exact ih n
    | zero =>
      rw [piecesFrom, Placeholder.scan]
      cases Placeholder.first? (c :: cs) with
      | some p => rw [holes_hole, ih]
      | none => rw [holes_plain, ih]

lemma holes_pieces (cs : List Char) : holes (pieces cs) = Placeholder.all cs :=
  holes_piecesFrom 0 cs

variable {p : Placeholder} {cs : List Char}

lemma hole_mem_pieces : .hole p ∈ pieces cs ↔ p ∈ Placeholder.find cs := by
  rw [← mem_holes, holes_pieces]
  refine ⟨fun hp => ?_, Placeholder.mem_of_mem_distinct⟩
  obtain ⟨q, hq, hsource⟩ := Placeholder.exists_mem_distinct hp List.not_mem_nil
  have hproper : ∀ {d}, d ∈ Placeholder.all cs → d.Proper := fun hd =>
    (scanned_pieces cs).proper (by rwa [← mem_holes, holes_pieces])
  rwa [← (hproper (Placeholder.mem_of_mem_distinct hq)).eq_of_source_eq (hproper hp) hsource]

end Template

lemma Placeholder.proper_of_mem_find {p : Placeholder} {cs : List Char} (h : p ∈ find cs) :
    p.Proper :=
  (Template.scanned_pieces cs).proper (Template.hole_mem_pieces.2 h)

end Daybook
