import Daybook.Expr.Token
import Daybook.Number.Numeral
import Daybook.Text.CharName.Find

/-!
Cutting an expression into words. At every place the first kind of word that fits is taken:
decimals, whole numbers, names, strings, operators, each as long as possible. Brackets are
checked on the way, and while one is open two closing braces do not end the expression.
-/

namespace Daybook.Token

open Text

/-- What a text begins with: a word or a fault, and what follows. -/
abbrev Scan := Option (Except WordFault Token × List Char)

def isCommonChar (c : Char) : Bool := c.toNat < 128

/-- What is wrong with a decimal because of its first digit of another script, if it has one. -/
def digitFault? (decimal : List Char) : Option DigitFault :=
  match decimal.dropWhile isCommonChar with
  | [] => none
  | c :: _ =>
    let before := decimal.takeWhile isCommonChar
    if before = [] then some (.strange c)
    else if before.head? = some '0' ∧ (before.all fun d => isDigit d || d == '_') ∧
        (before.any fun d => isDigit d && d != '0') then some .leadingZero
    else some .mixed

/-- A number with a fraction or an exponent, or both. -/
def float? (cs : List Char) : Scan :=
  match Number.digitRun decimal? cs with
  | ([], _) => none
  | (whole, rest) =>
    let (frac, rest) := match rest with
      | '.' :: r => match Number.digitRun decimal? r with
        | ([], _) => ([], rest)
        | (ds, r) => (ds, r)
      | _ => ([], rest)
    let (exp, rest') := Number.takeExponent decimal? rest
    if frac = [] ∧ rest'.length = rest.length then none
    else
      match digitFault? (cs.take (cs.length - rest'.length)) with
      | some f => some (.error (.foreignDigit f), rest')
      | none => some (.ok (.float (Number.ofDigitLists false whole frac exp)), rest')

/-- Digits, each perhaps after one underscore. -/
def looseRun (digit : Char → Option Nat) : List Char → List Nat × List Char
  | [] => ([], [])
  | '_' :: c :: cs =>
    match digit c with
    | none => ([], '_' :: c :: cs)
    | some d =>
      let (ds, r) := looseRun digit cs
      (d :: ds, r)
  | c :: cs =>
    match digit c with
    | none => ([], c :: cs)
    | some d =>
      let (ds, r) := looseRun digit cs
      (d :: ds, r)

def binaryDigit? (c : Char) : Option Nat :=
  if c = '0' then some 0 else if c = '1' then some 1 else none

def octalDigit? (c : Char) : Option Nat := if '0' ≤ c ∧ c ≤ '7' then some (c.toNat - 48) else none

/-- A digit in base sixteen; the ten smaller ones may be of any script. -/
def anyHexDigit? (c : Char) : Option Nat := (hexDigit? c).or (decimal? c)

/-- The base that a letter after a leading zero announces, with the digits of that base. -/
def base? (c : Char) : Option (Nat × (Char → Option Nat)) :=
  match c with
  | 'b' | 'B' => some (2, binaryDigit?)
  | 'o' | 'O' => some (8, octalDigit?)
  | 'x' | 'X' => some (16, anyHexDigit?)
  | _ => none

/-- A whole number in base two, eight or sixteen, after its leading zero. -/
def basedInt? : List Char → Scan
  | c :: cs =>
    match base? c with
    | none => none
    | some (base, digit) =>
      match looseRun digit cs with
      | ([], _) => none
      | (ds, rest) => some (.ok (.int (ofDigits base ds)), rest)
  | [] => none

def zeroDigit? (c : Char) : Option Nat := if c = '0' then some 0 else none

/-- A whole number: a zero may be followed by zeros and base letters only. -/
def int? : List Char → Scan
  | '0' :: cs =>
    match basedInt? cs with
    | some r => some r
    | none =>
      let (zeros, rest) := looseRun zeroDigit? cs
      if Number.digitLimit < zeros.length + 1 then
        some (.error (.tooManyDigits (zeros.length + 1)), rest)
      else some (.ok (.int 0), rest)
  | c :: cs =>
    match digit? c with
    | none => none
    | some d =>
      let (ds, rest) := looseRun decimal? cs
      if Number.digitLimit < ds.length + 1 then some (.error (.tooManyDigits (ds.length + 1)), rest)
      else some (.ok (.int (ofDigits 10 (d :: ds))), rest)
  | [] => none

/-- A run of name characters, which has to be an identifier. -/
def name? (cs : List Char) : Scan :=
  let run := cs.takeWhile isNameChar
  if run = [] then none
  else
    let rest := cs.dropWhile isNameChar
    if isIdentifier run then some (.ok (.name (String.ofList run)), rest)
    else some (.error .notIdentifier, rest)

/-- The characters up to the quote `q`, escapes not resolved yet, and what follows the quote. -/
def rawString? (q : Char) : List Char → Option (List Char × List Char)
  | [] => none
  | '\\' :: c :: cs => (rawString? q cs).map fun (s, r) => ('\\' :: c :: s, r)
  | c :: cs =>
    if c = q then some ([], cs)
    else if c = '\\' then none
    else (rawString? q cs).map fun (s, r) => (c :: s, r)

/-- What a one-letter escape stands for; a line end after a backslash vanishes. -/
def letterEscape? (c : Char) : Option (List Char) :=
  match c with
  | '\n' => some []
  | '\\' | '\'' | '"' => some [c]
  | 'b' => some ['\x08']
  | 'f' => some ['\x0c']
  | 't' => some ['\t']
  | 'n' => some ['\n']
  | 'r' => some ['\r']
  | 'v' => some ['\x0b']
  | 'a' => some ['\x07']
  | _ => none

/-- The value of exactly `count` digits in base sixteen. -/
def hexValue? (count : Nat) (cs : List Char) : Option Nat :=
  let ds := (cs.take count).filterMap hexDigit?
  if ds.length = count then some (ofDigits 16 ds) else none

/-- The codes that an escape stands for, and what follows it. -/
abbrev Escape := Except EscapeFault (List Nat × List Char)

/-- An escape with a number of exactly `count` digits in base sixteen. Without so many digits it
has the given fault. -/
def hexEscape (count : Nat) (fault : EscapeFault) (cs : List Char) : Escape :=
  match hexValue? count cs with
  | none => .error fault
  | some v => if 0x10FFFF < v then .error .pastUnicode else .ok ([v], cs.drop count)

/-- An escape with the name of a character in braces. -/
def nameEscape : List Char → Escape
  | '\x7b' :: cs =>
    match cs.takeWhile (· != '\x7d'), cs.dropWhile (· != '\x7d') with
    | [], _ | _, [] => .error .malformedName
    | cs, _ :: rest =>
      match charNamed? cs with
      | none => .error .unknownName
      | some n => .ok ([n], rest)
  | _ => .error .malformedName

/-- An escape whose first character after the backslash is `c`. A backslash that begins no escape
stands for itself. -/
def escape (c : Char) (cs : List Char) : Escape :=
  match letterEscape? c, c with
  | some s, _ => .ok (s.map Char.toNat, cs)
  | none, 'x' => hexEscape 2 .truncatedX cs
  | none, 'u' => hexEscape 4 .truncatedU cs
  | none, 'U' => hexEscape 8 .truncatedLongU cs
  | none, 'N' => nameEscape cs
  | none, _ =>
    if (octalDigit? c).isSome then
      let ds := ((c :: cs).take 3).takeWhile fun d => (octalDigit? d).isSome
      .ok ([ofDigits 8 (ds.filterMap octalDigit?)], (c :: cs).drop ds.length)
    else
      let shown := if c.toNat < 128 then [c] else shortEscape c
      .ok (('\\' :: shown).map Char.toNat, cs)

/-- The codes that the body of a string stands for. The first argument bounds the number of its
parts. -/
def unescape : Nat → List Char → Except EscapeFault (List Nat)
  | 0, _ => .ok []
  | _ + 1, [] => .ok []
  | n + 1, '\\' :: c :: cs => do
    let (us, rest) ← escape c cs
    (us ++ ·) <$> unescape n rest
  | n + 1, c :: cs => (c.toNat :: ·) <$> unescape n cs

/-- A string in single or double quotes. -/
def string? : List Char → Scan
  | q :: cs =>
    if q = '\'' ∨ q = '"' then
      (rawString? q cs).map fun (body, rest) =>
        match unescape body.length body with
        | .ok us => (.ok (.text (us.map .ofCode)), rest)
        | .error f => (.error (.escape f), rest)
    else none
  | [] => none

/-- The operators, the longer ones first. -/
def symbols : List Symbol := [.floorDiv, .pow, .eq, .ne, .ge, .le, .add, .sub, .div, .mul, .mod,
  .tilde, .lbracket, .rbracket, .lparen, .rparen, .lbrace, .rbrace, .gt, .lt, .assign, .dot,
  .colon, .pipe, .comma, .semicolon]

def symbol? (cs : List Char) : Option (Symbol × List Char) :=
  symbols.findSome? fun s => (after? s.text.toList cs).map fun rest => (s, rest)

/-- The word that a text begins with. A decimal may not follow a point. -/
def scan (afterDot : Bool) (cs : List Char) : Scan :=
  (if afterDot then none else float? cs) <|> int? cs <|> name? cs <|> string? cs <|>
    (symbol? cs).map fun (s, rest) => (.ok (.symbol s), rest)

/-- The end of a print statement; with a minus sign it takes the blanks that follow along. -/
def printEnd? : List Char → Option (List Char)
  | '-' :: '\x7d' :: '\x7d' :: cs => some (cs.dropWhile isBlank)
  | '\x7d' :: '\x7d' :: cs => some cs
  | _ => none

/-- The end of a statement; with a minus sign it takes the blanks that follow along. -/
def blockEnd? : List Char → Option (List Char)
  | '-' :: '%' :: '\x7d' :: cs => some (cs.dropWhile isBlank)
  | '+' :: '%' :: '\x7d' :: cs => some cs
  | '%' :: '\x7d' :: cs => some cs
  | _ => none

/-- The closers that are still due after a symbol. -/
def balance (due : List Symbol) (s : Symbol) : Except WordFault (List Symbol) :=
  match s with
  | .lparen => .ok (.rparen :: due)
  | .lbracket => .ok (.rbracket :: due)
  | .lbrace => .ok (.rbrace :: due)
  | .rparen | .rbracket | .rbrace =>
    match due with
    | [] => .error (.strayCloser s)
    | d :: due => if d = s then .ok due else .error (.wrongCloser s d)
  | _ => .ok due

/-- Cuts a text into words up to the given ending. `total` is the length of the text from the
place that positions are counted from; the first argument bounds the number of steps. -/
def cut (ending : List Char → Option (List Char)) (last : Token) (total : Nat) :
    Nat → Bool → List Symbol → List Char → List Token × List Char
  | 0, _, _, _ => ([], [])
  | _ + 1, _, _, [] => ([], [])
  | n + 1, afterDot, due, c :: cs =>
    match if due = [] then ending (c :: cs) else none with
    | some rest => ([last], rest)
    | none =>
      if isBlank c then cut ending last total n false due cs
      else
        match scan afterDot (c :: cs) with
        | none => ([.fault (.strangeChar c (total - (cs.length + 1)))], [])
        | some (.error f, _) => ([.fault f], [])
        | some (.ok (.symbol s), rest) =>
          match balance due s with
          | .error f => ([.fault f], [])
          | .ok due =>
            let (ts, rest) := cut ending last total n (s == .dot) due rest
            (.symbol s :: ts, rest)
        | some (.ok t, rest) =>
          let (ts, rest) := cut ending last total n false due rest
          (t :: ts, rest)

/-- The words of a print statement, to its end or to a fault, and the text after it. -/
def ofPrint (total : Nat) (cs : List Char) : List Token × List Char :=
  cut printEnd? .printEnd total (cs.length + 1) false [] cs

/-- The words of another statement, to its end or to a fault, and the text after it. -/
def ofBlock (total : Nat) (cs : List Char) : List Token × List Char :=
  cut blockEnd? .blockEnd total (cs.length + 1) false [] cs

end Daybook.Token
