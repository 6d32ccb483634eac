import Mathlib.Data.List.TakeWhile
import Daybook.Proofs.Reading.Phrases
import Daybook.Proofs.Reading.Segments
import Daybook.Proofs.Reading.Statements

/-!
Reading drops, adds and reorders nothing. A text that is read as an expression is all words and
blanks, its words derive the expression, and in their order they say what the expression says.
Every other text is refused with a fault of reading, unless a word breaks the reading off.
-/

namespace Daybook

open Text

variable {source cs : List Char} {ts us ws : List Token}

/-- Whether a faulty word ends the reading instead of being reported. -/
def WordFault.breaks : WordFault → Bool
  | .tooManyDigits _ | .foreignDigit _ => true
  | _ => false

def Token.breaks : Token → Bool
  | .fault w => w.breaks
  | _ => false

namespace Expr

/-- All words that are looked at: those of the print statement, and those of what follows it. -/
def allWords (source : List Char) : List Token :=
  (words source).1 ++ Markup.words (size source) (words source).2

/-- The text without the blanks around it is one expression: its words are those of a whole
print statement, they tile the text, they derive the expression, and they say the same in the
same order. -/
structure Writes (ws : List Token) (text : List Char) (e : Expr) : Prop where
  words_eq : words (trim text) = (ws ++ [.printEnd], [])
  tiles : Token.Tiles ['\x7d', '\x7d'] false ws (unifyLineEnds (trim text) ++ [' '])
  derives : Derives (.whole e) ws
  inOrder_eq : e.inOrder = said ws

/-! ### The end of the text -/

lemma eq_of_printEnd? {behind : List Char} (h : Token.printEnd? behind = some [])
    (hcs : source ++ closing = cs ++ behind) :
    cs = source ++ [' '] ∧ behind = ['\x7d', '\x7d'] := by
  unfold Token.printEnd? at h
  split at h
  · rename_i bs
    have hblank : ∀ b ∈ bs, isBlank b = true := List.dropWhile_eq_nil_iff.1 (Option.some.inj h)
    cases hlast : bs.getLast? with
    | none =>
      rw [List.getLast?_eq_none_iff.1 hlast] at hcs
      have hclosing := (List.append_inj' hcs rfl).2
      cases hclosing
    | some b =>
      have hbs : bs ≠ [] := by
        rintro rfl
        cases hlast
      -- a minus sign takes blanks off behind it, but the text ends with a brace
      have hbrace : (source ++ closing).getLast? = some '\x7d' := by
        rw [List.getLast?_append]
        rfl
      have hb : (cs ++ '-' :: '\x7d' :: '\x7d' :: bs).getLast? = some b := by
        rw [List.getLast?_append]
        simp [List.getLast?_cons, hlast]
      rw [← hcs, hbrace] at hb
      cases hb
      exact absurd (hblank _ (List.mem_of_getLast? hlast)) (by decide)
  · cases h
    have hsplit : (source ++ [' ']) ++ ['\x7d', '\x7d'] = cs ++ ['\x7d', '\x7d'] := by
      rw [← hcs, List.append_assoc]
      rfl
    exact ⟨(List.append_cancel_right hsplit).symm, rfl⟩
  · cases h

lemma eq_of_append_printEnd {rest : List Token} (hus : ∀ t ∈ us, t.isWord = true)
    (h : us ++ [.printEnd] = ws ++ .printEnd :: rest) : us = ws ∧ rest = [] := by
  rcases List.append_eq_append_iff.1 h with ⟨vs, rfl, hvs⟩ | ⟨vs, rfl, hvs⟩
  · cases vs with
    | nil =>
      cases hvs
      exact ⟨(List.append_nil us).symm, rfl⟩
    | cons v vs => simp at hvs
  · cases vs with
    | nil =>
      cases hvs
      exact ⟨List.append_nil ws, rfl⟩
    | cons v vs =>
      cases hvs
      have hword := hus .printEnd (by simp)
      cases hword

/-! ### Texts that are read -/

lemma tree_eq_ok {t : Tree} (h : tree source = .ok t) :
    (words source).2 = [] ∧ ∃ rest, Tree.statement (words source).1 = .ok (t, rest) := by
  unfold tree at h
  dsimp only at h
  split at h
  · cases h
  · rename_i d rest hstatement
    split at h
    · rename_i hnil
      cases h
      have hbehind : Markup.words (size source) [] = [] := rfl
      rw [hnil, hbehind, List.append_nil] at hstatement
      exact ⟨hnil, rest, hstatement⟩
    · split at h <;> cases h

lemma read_eq_ok {text : List Char} {e : Expr} (h : read text = .ok e) :
    ∃ t, tree (trim text) = .ok t ∧ t.toExpr = .ok e := by
  unfold read at h
  dsimp only at h
  split at h
  · cases h
  · obtain ⟨t, ht, h⟩ := bind_eq_ok.1 h
    split at h
    · cases h
      exact ⟨t, ht, ‹_›⟩
    · cases h

lemma writes_of_read {text : List Char} {e : Expr} (h : read text = .ok e) :
    ∃ ws, Writes ws text e := by
  obtain ⟨t, ht, he⟩ := read_eq_ok h
  obtain ⟨hrest, rest, hstatement⟩ := tree_eq_ok ht
  obtain ⟨ws, hws, hderives⟩ := covers_statement hstatement e he
  have hwords : words (trim text) = (ws ++ .printEnd :: rest, []) := by
    rw [← hws, ← hrest]
  have hend : .printEnd ∈ ws ++ .printEnd :: rest := by simp
  obtain ⟨us, cs, behind, hus, hcs, hbehind, htiles, hword⟩ := Token.cut_tiles hwords hend
  obtain ⟨rfl, rfl⟩ := eq_of_append_printEnd hword hus.symm
  obtain ⟨rfl, rfl⟩ := eq_of_printEnd? hbehind hcs
  exact ⟨us, hwords, htiles, hderives, hderives.said_eq.symm⟩

/-! ### Texts that are refused -/

mutual

lemma kind_of_toExpr {f : Fault} : ∀ {t : Tree}, t.toExpr = .error f → f.kind = .parse
  | .lit _, h | .name _, h => by cases h
  | .sign s t, h => by
    rcases bind_eq_error.1 h with h | ⟨e, -, h⟩
    · exact kind_of_toExpr h
    · cases h
  | .op o a b, h => by
    rcases bind_eq_error.1 h with h | ⟨d, -, h⟩
    · exact kind_of_toExpr h
    · rcases bind_eq_error.1 h with h | ⟨e, -, h⟩
      · exact kind_of_toExpr h
      · cases h
  | .call (.name g) args plain, h => by
    cases plain with
    | false =>
      cases h
      rfl
    | true =>
      rcases bind_eq_error.1 h with h | ⟨es, -, h⟩
      · exact kind_of_toExprs h
      · cases h
  | .call (.lit _) _ _, h | .call (.sign ..) _ _, h | .call (.op ..) _ _, h
  | .call (.call ..) _ _, h | .call (.tuple _) _ _, h | .call (.other _) _ _, h => by
    cases h
    rfl
  | .tuple _, h | .other _, h => by
    cases h
    rfl

lemma kind_of_toExprs {f : Fault} : ∀ {ts : List Tree}, Tree.toExprs ts = .error f → f.kind = .parse
  | [], h => by cases h
  | t :: ts, h => by
    rcases bind_eq_error.1 h with h | ⟨e, -, h⟩
    · exact kind_of_toExpr h
    · rcases bind_eq_error.1 h with h | ⟨es, -, h⟩
      · exact kind_of_toExprs h
      · cases h

end

lemma syntaxStop_cases (source : List Char) (f : SyntaxFault) :
    (∃ g, syntaxStop source f = .fault g ∧ g.kind = .parse) ∨
      ∃ w, f = .word w ∧ w.breaks = true ∧ syntaxStop source f = .abort (.word w) := by
  unfold syntaxStop
  split
  · exact .inr ⟨_, rfl, rfl, rfl⟩
  · exact .inr ⟨_, rfl, rfl, rfl⟩
  · exact .inl ⟨_, rfl, rfl⟩

/-- The fault that a reading ends with, if it ends with one, and where a word that breaks it off
is found. -/
def Refused (ts : List Token) (stop : Stop) : Prop :=
  (∃ f, stop = .fault f ∧ f.kind = .parse) ∨
    ∃ w, .fault w ∈ ts ∧ w.breaks = true ∧ stop = .abort (.word w)

lemma refused_syntaxStop {f : SyntaxFault} (h : ∀ w, f = .word w → .fault w ∈ ts) :
    Refused ts (syntaxStop source f) := by
  rcases syntaxStop_cases source f with hfault | ⟨w, hw, hbreaks, hstop⟩
  · exact .inl hfault
  · exact .inr ⟨w, h w hw, hbreaks, hstop⟩

lemma refused_of_tree {stop : Stop} (h : tree source = .error stop) :
    Refused (allWords source) stop := by
  have hwithin := Tree.statement_within (allWords source) List.suffix_rfl
  unfold tree at h
  dsimp only at h
  split at h
  · rename_i f hf
    cases h
    refine refused_syntaxStop fun w hw => ?_
    rw [hw] at hf
    exact hwithin.fault w hf
  · rename_i e rest hread
    -- what is left over is the end of the words that were given
    have hrest : rest <:+ allWords source := hwithin.left _ hread
    split at h
    · cases h
    · split at h
      · rename_i f hf
        cases h
        refine refused_syntaxStop fun w hw => ?_
        rw [hw] at hf
        exact hrest.subset (Statement.mem_of_fault? hf)
      · cases h
        exact .inl ⟨_, rfl, rfl⟩

lemma refused_of_read {text : List Char} {stop : Stop} (h : read text = .error stop) :
    Refused (allWords (trim text)) stop := by
  unfold read at h
  dsimp only at h
  split at h
  · cases h
    exact .inl ⟨_, rfl, rfl⟩
  · rcases bind_eq_error.1 h with h | ⟨t, -, h⟩
    · exact refused_of_tree h
    · split at h
      · cases h
      · cases h
        exact .inl ⟨_, rfl, kind_of_toExpr ‹_›⟩

/-- **Reading is faithful.** A text that is read as an expression is one, word by word and in the
same order. Every text that is none is answered with a fault of reading, if none of its words
breaks the reading off. -/
theorem read_faithful (text : List Char) :
    (∀ e, read text = .ok e → ∃ ws, Writes ws text e) ∧
      ((∀ t ∈ allWords (trim text), t.breaks = false) → (∀ ws e, ¬ Writes ws text e) →
        ∃ f, read text = .fault f ∧ f.kind = .parse) := by
  refine ⟨fun e => writes_of_read, fun hwords hnone => ?_⟩
  cases hread : read text with
  | ok e =>
    obtain ⟨ws, hws⟩ := writes_of_read hread
    exact absurd hws (hnone ws e)
  | error stop =>
    rcases refused_of_read hread with ⟨f, rfl, hf⟩ | ⟨w, hw, hbreaks, -⟩
    · exact ⟨f, rfl, hf⟩
    · have hunbroken : w.breaks = false := hwords _ hw
      rw [hunbroken] at hbreaks
      cases hbreaks

lemma not_writes {text : List Char}
    (h : (words (trim text)).1.dropLast.all Token.isPlain = false ∨ (words (trim text)).2 ≠ []) :
    ∀ ws e, ¬ Writes ws text e := by
  intro ws e hw
  rw [hw.words_eq] at h
  rcases h with h | h
  · rw [List.dropLast_concat, hw.derives.all_isPlain] at h
    cases h
  · exact h rfl

/-- A call with an argument in parentheses, two strings that are one, and a comma too many is
kept word by word; a power and a second statement are refused. -/
theorem read_faithful_samples :
    (∃ ws e, read "f((a), 'x' \"y\",) % -2".toList = .ok e ∧
      Writes ws "f((a), 'x' \"y\",) % -2".toList e) ∧
    (∃ f, read "2 ** 3".toList = .fault f ∧ f.kind = .parse) ∧
    ∃ f, read "1 \x7d\x7d \x7b\x7b 2".toList = .fault f ∧ f.kind = .parse := by
  have hunbroken : ∀ text : List Char,
      ((allWords (trim text)).all fun t => !t.breaks) = true →
        ∀ t ∈ allWords (trim text), t.breaks = false := by
    intro text h t ht
    simpa using List.all_eq_true.1 h t ht
  refine ⟨?_, ?_, ?_⟩
  · have hread : (read "f((a), 'x' \"y\",) % -2".toList).toOption.isSome = true := by
      decide +kernel
    obtain ⟨e, he⟩ := Option.isSome_iff_exists.1 hread
    have he := toOption_eq_some.1 he
    obtain ⟨ws, hws⟩ := (read_faithful _).1 e he
    exact ⟨ws, e, he, hws⟩
  · exact (read_faithful _).2 (hunbroken _ (by decide +kernel))
      (not_writes (.inl (by decide +kernel)))
  · exact (read_faithful _).2 (hunbroken _ (by decide +kernel))
      (not_writes (.inr (by decide +kernel)))

def isPower : Token → Bool
  | .symbol .pow => true
  | _ => false

/-- A decimal with a digit of another script breaks the reading off, also where a construct that
expressions do not have stands before it. -/
theorem read_breaks_off :
    (words "2 ** 1.٣".toList).1.any isPower = true ∧
      read "2 ** 1.٣".toList = .abort (.word (.foreignDigit .mixed)) := by
  have hstop : errorOf? (read "2 ** 1.٣".toList) =
      some (.abort (.word (.foreignDigit .mixed))) := by decide +kernel
  exact ⟨by decide +kernel, errorOf?_eq_some.1 hstop⟩

end Expr

end Daybook
