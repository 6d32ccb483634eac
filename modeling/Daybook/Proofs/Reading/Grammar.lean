import Daybook.Proofs.Reading.Print

/-!
Expressions as phrases of words. Words derive a phrase by the rules of sums, products, signs and
values; parentheses may stand around any expression, and strings side by side are one string.
An expression says its literals, names and operators in the order of the words that it is
derived from.
-/

namespace Daybook

open Daybook.Tree

/-! ### Phrases -/

/-- What a run of words can be. -/
inductive Phrase
  /-- An expression that stands on its own, in parentheses, or as an argument. -/
  | whole (e : Expr)
  /-- An expression in a place that asks for the given level. -/
  | part (k : ℕ) (e : Expr)
  /-- Arguments with commas between them, and perhaps one more comma behind the last. -/
  | args (es : List Expr)

/-- The words derive the phrase. -/
inductive Derives : Phrase → List Token → Prop
  | int (n : ℕ) : Derives (.part 3 (.lit (.int n))) [.int n]
  | float (x : Float) : Derives (.part 3 (.lit (.float x))) [.float x]
  | texts {ss : List Points} : ss ≠ [] →
      Derives (.part 3 (.lit (.text ss.flatten))) (ss.map .text)
  | constant {w : String} {l : Literal} : constant? w = some l →
      Derives (.part 3 (.lit l)) [.name w]
  | name {w : String} : constant? w = none → Derives (.part 3 (.name w)) [.name w]
  | parens {e : Expr} {ws : List Token} : Derives (.whole e) ws →
      Derives (.part 3 e) (.symbol .lparen :: (ws ++ [.symbol .rparen]))
  | call {f : String} {es : List Expr} {us ws : List Token} : Derives (.part 3 (.name f)) us →
      Derives (.args es) ws →
      Derives (.part 3 (.call f es)) (us ++ .symbol .lparen :: (ws ++ [.symbol .rparen]))
  | unary {s : Sign} {e : Expr} {ws : List Token} : Derives (.part 2 e) ws →
      Derives (.part 2 (.unary s e)) (.symbol s.symbol :: ws)
  | binary {o : Operator} {a b : Expr} {us ws : List Token} : Derives (.part o.level a) us →
      Derives (.part (o.level + 1) b) ws →
      Derives (.part o.level (.binary o a b)) (us ++ .symbol o.symbol :: ws)
  | tighter {k : ℕ} {e : Expr} {ws : List Token} : Derives (.part (k + 1) e) ws →
      Derives (.part k e) ws
  /-- At the beginning of an expression `not` is no name. -/
  | whole {e : Expr} {ws : List Token} : Derives (.part 0 e) ws → atName "not" ws = false →
      Derives (.whole e) ws
  | noArgs : Derives (.args []) []
  | lastArg {e : Expr} {ws : List Token} : Derives (.whole e) ws → Derives (.args [e]) ws
  | arg {e : Expr} {es : List Expr} {us ws : List Token} : Derives (.whole e) us →
      Derives (.args es) ws → Derives (.args (e :: es)) (us ++ .symbol .comma :: ws)

/-- The words that phrases are made of. -/
def Token.isPlain : Token → Bool
  | .name _ | .int _ | .float _ | .text _ => true
  | .symbol s => printedSymbols.contains s
  | _ => false

/-- **No other words derive anything**: an operator, a bracket or a mark that expressions do not
have is in no phrase. -/
theorem Derives.all_isPlain {p : Phrase} {ws : List Token} (h : Derives p ws) :
    ws.all Token.isPlain = true := by
  have hsign : ∀ s : Sign, (Token.symbol s.symbol).isPlain = true := by
    intro s
    cases s <;> rfl
  have hoperator : ∀ o : Operator, (Token.symbol o.symbol).isPlain = true := by
    intro o
    cases o <;> rfl
  have hparens : (Token.symbol .lparen).isPlain = true ∧ (Token.symbol .rparen).isPlain = true ∧
      (Token.symbol .comma).isPlain = true := ⟨rfl, rfl, rfl⟩
  induction h with
  | int | float | constant | name | noArgs => rfl
  | texts => simp [Token.isPlain]
  | tighter _ ih | whole _ _ ih | lastArg _ ih => exact ih
  | parens _ ih =>
    simp only [List.all_cons, List.all_append, List.all_nil, hparens, ih, Bool.and_true]
  | unary _ ih => simp only [List.all_cons, hsign, ih, Bool.and_true]
  | binary _ _ ih ih' =>
    simp only [List.all_cons, List.all_append, hoperator, ih, ih', Bool.and_true]
  | call _ _ ih ih' | arg _ _ ih ih' =>
    simp only [List.all_cons, List.all_append, List.all_nil, hparens, ih, ih', Bool.and_true]

/-! ### What is said in order -/

/-- A thing that an expression says. -/
inductive Saying
  | literal (l : Literal)
  | name (w : String)
  | symbol (s : Symbol)
  /-- A word that no expression says. -/
  | other (t : Token)

namespace Expr

mutual

/-- What an expression says, in order: a sign before its operand, an operator between its
operands, a function before its arguments. -/
def inOrder : Expr → List Saying
  | .lit l => [.literal l]
  | .name w => [.name w]
  | .unary s e => .symbol s.symbol :: inOrder e
  | .binary o a b => inOrder a ++ .symbol o.symbol :: inOrder b
  | .call f es => .name f :: inOrderAll es

def inOrderAll : List Expr → List Saying
  | [] => []
  | e :: es => inOrder e ++ inOrderAll es

end

end Expr

def Phrase.inOrder : Phrase → List Saying
  | .whole e | .part _ e => e.inOrder
  | .args es => Expr.inOrderAll es

/-- Puts a word before others; a string before a string is one with it. -/
def Token.before : Token → List Token → List Token
  | .text s, .text s' :: ts => .text (s ++ s') :: ts
  | t, ts => t :: ts

/-- What a word says. Parentheses and commas say nothing. -/
def Token.saying? : Token → Option Saying
  | .symbol .lparen | .symbol .rparen | .symbol .comma => none
  | .symbol s => some (.symbol s)
  | .int n => some (.literal (.int n))
  | .float x => some (.literal (.float x))
  | .text s => some (.literal (.text s))
  | .name w => some (match constant? w with
    | some l => .literal l
    | none => .name w)
  | t => some (.other t)

def said (ts : List Token) : List Saying := (ts.foldr Token.before []).filterMap Token.saying?

variable {p : Phrase} {ws us ts : List Token} {ss : List Points} {s : Symbol}

lemma foldr_before_append :
    (us ++ .symbol s :: ws).foldr Token.before [] =
      us.foldr Token.before [] ++ .symbol s :: ws.foldr Token.before [] := by
  induction us with
  | nil => rfl
  | cons t us ih =>
    rw [List.cons_append, List.foldr_cons, ih, List.foldr_cons]
    cases t with
    | text w =>
      rcases us.foldr Token.before [] with _ | ⟨u, us⟩
      · rfl
      · cases u <;> rfl
    | _ => rfl

lemma said_append :
    said (us ++ .symbol s :: ws) =
      said us ++ ((Token.symbol s).saying?.toList ++ said ws) := by
  rw [said, foldr_before_append, List.filterMap_append, List.filterMap_cons]
  cases h : (Token.symbol s).saying? <;> rfl

lemma said_symbol_cons :
    said (.symbol s :: ws) = (Token.symbol s).saying?.toList ++ said ws := by
  rw [← List.nil_append (.symbol s :: ws), said_append]
  rfl

lemma said_parens :
    said (.symbol .lparen :: (ws ++ [.symbol .rparen])) = said ws := by
  rw [said_symbol_cons, said_append]
  exact List.append_nil _

lemma said_name (w : String) : said [.name w] = [match constant? w with
    | some l => .literal l
    | none => .name w] := rfl

lemma foldr_before_texts (h : ss ≠ []) :
    (ss.map Token.text).foldr Token.before [] = [.text ss.flatten] := by
  induction ss with
  | nil => exact absurd rfl h
  | cons s ss ih =>
    cases ss with
    | nil => simp [Token.before]
    | cons s' ss =>
      rw [List.map_cons, List.foldr_cons, ih nofun, Token.before, ← List.flatten_cons]

lemma saying?_operator (o : Operator) :
    (Token.symbol o.symbol).saying? = some (.symbol o.symbol) := by
  cases o <;> rfl

lemma saying?_sign (s : Sign) : (Token.symbol s.symbol).saying? = some (.symbol s.symbol) := by
  cases s <;> rfl

/-- **What words say is what their phrase says**, in the same order. -/
theorem Derives.said_eq (h : Derives p ws) : said ws = p.inOrder := by
  induction h with
  | int | float | noArgs => rfl
  | texts hss =>
    rw [said, foldr_before_texts hss]
    rfl
  | constant hw | name hw =>
    rw [said_name, hw]
    rfl
  | parens _ ih => exact said_parens.trans ih
  | call _ _ ihf ihargs =>
    rw [said_append, said_append, ihf, ihargs]
    exact congrArg _ (List.append_nil _)
  | @unary s _ _ _ ih =>
    rw [said_symbol_cons, saying?_sign, ih]
    rfl
  | @binary o _ _ _ _ _ _ iha ihb =>
    rw [said_append, saying?_operator, iha, ihb]
    rfl
  | tighter _ ih | whole _ _ ih => exact ih
  | lastArg _ ih => exact ih.trans (List.append_nil _).symm
  | arg _ _ ihe ihargs =>
    rw [said_append, ihe, ihargs]
    rfl

end Daybook
