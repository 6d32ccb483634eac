import Daybook.Text.Points

/-!
The words of the template language in which expressions stand, and what can be wrong with them.
The language has more words than expressions need, because a text that uses them is refused
with a message that names them.
-/

namespace Daybook

open Text

/-- Operators and brackets. -/
inductive Symbol
  | add | sub | mul | div | floorDiv | mod | pow | tilde
  | eq | ne | lt | le | gt | ge
  | assign | dot | colon | comma | semicolon | pipe
  | lparen | rparen | lbracket | rbracket | lbrace | rbrace
  deriving DecidableEq, Repr

def Symbol.text : Symbol → String
  | add => "+"
  | sub => "-"
  | mul => "*"
  | div => "/"
  | floorDiv => "//"
  | mod => "%"
  | pow => "**"
  | tilde => "~"
  | eq => "=="
  | ne => "!="
  | lt => "<"
  | le => "<="
  | gt => ">"
  | ge => ">="
  | assign => "="
  | dot => "."
  | colon => ":"
  | comma => ","
  | semicolon => ";"
  | pipe => "|"
  | lparen => "("
  | rparen => ")"
  | lbracket => "["
  | rbracket => "]"
  | lbrace => "\x7b"
  | rbrace => "\x7d"

/-- What is wrong with an escape inside a string. -/
inductive EscapeFault
  | truncatedX
  | truncatedU
  | truncatedLongU
  | pastUnicode
  | malformedName
  | unknownName
  deriving DecidableEq, Repr

def EscapeFault.message : EscapeFault → String
  | truncatedX => "truncated \\xXX escape"
  | truncatedU => "truncated \\uXXXX escape"
  | truncatedLongU => "truncated \\UXXXXXXXX escape"
  | pastUnicode => "illegal Unicode character"
  | malformedName => "malformed \\N character escape"
  | unknownName => "unknown Unicode character name"

/-- What is wrong with a decimal that has a digit of another script. -/
inductive DigitFault
  /-- The number begins with such a digit. -/
  | strange (c : Char)
  /-- Such a digit follows common ones. -/
  | mixed
  /-- Such a digit follows a whole number that begins with a zero. -/
  | leadingZero
  deriving DecidableEq, Repr

def DigitFault.message : DigitFault → List Char
  | strange c => "invalid character '".toList ++ c :: "' (U+".toList ++
      (hexDigits 4 c.toNat).map Char.toUpper ++ [')']
  | mixed => "invalid decimal literal".toList
  | leadingZero => ("leading zeros in decimal integer literals are not permitted; use an 0o " ++
      "prefix for octal integers").toList

/-- Why a text does not go on with a word. -/
inductive WordFault
  | strangeChar (c : Char) (position : Nat)
  | notIdentifier
  | strayCloser (found : Symbol)
  | wrongCloser (found due : Symbol)
  | escape (fault : EscapeFault)
  | openComment
  | openRaw
  /-- A whole number has more digits than are read. -/
  | tooManyDigits (count : Nat)
  /-- A number with a point or an exponent has a digit of another script. -/
  | foreignDigit (fault : DigitFault)
  deriving DecidableEq, Repr

def WordFault.message : WordFault → List Char
  | strangeChar c n => "unexpected char ".toList ++ quoted [c] ++ " at ".toList ++ natDigits n
  | notIdentifier => "Invalid character in identifier".toList
  | strayCloser s => "unexpected '".toList ++ s.text.toList ++ ['\'']
  | wrongCloser s t => "unexpected '".toList ++ s.text.toList ++ "', expected '".toList ++
      t.text.toList ++ ['\'']
  | escape f => f.message.toList
  | openComment => "Missing end of comment tag".toList
  | openRaw => "Missing end of raw directive".toList
  | tooManyDigits n => "Exceeds the limit (4300 digits) for integer string conversion: value has "
      |>.toList |> (· ++ natDigits n ++
        " digits; use sys.set_int_max_str_digits() to increase the limit".toList)
  | foreignDigit f => f.message ++ " (<unknown>, line 1)".toList

inductive Token
  | name (s : String)
  | int (n : Nat)
  | float (x : Float)
  | text (s : Points)
  | symbol (s : Symbol)
  /-- Text outside of statements; it may be all blank. -/
  | data (blank : Bool)
  | printBegin
  | printEnd
  | blockBegin
  | blockEnd
  /-- No word can be read here. It is met when the reader comes to it, not before. -/
  | fault (f : WordFault)

/-- How messages call a word. The end of the text is no word and has a name too. -/
def Token.shown : Option Token → String
  | some (.name s) => s
  | some (.int _) => "integer"
  | some (.float _) => "float"
  | some (.text _) => "string"
  | some (.symbol s) => s.text
  | some (.data _) => "template data / text"
  | some .printBegin => "begin of print statement"
  | some .printEnd => "end of print statement"
  | some .blockBegin => "begin of statement block"
  | some .blockEnd => "end of statement block"
  | some (.fault _) => ""
  | none => "end of template"

/-- Why words do not form an expression. -/
inductive SyntaxFault
  | word (fault : WordFault)
  | unexpected (got : String)
  | expected (due got : String)
  | expectedAtEnd (due : String)
  | nameOrNumber
  | badArguments
  | noExpression (got : String)
  | chainedTests
  /-- The bound on nesting is used up, which does not happen. -/
  | tooDeep
  | noTag
  /-- No statement of this name may stand here. A known one closes an outer body. Of the bodies
  and statements that are open the innermost is named. -/
  | strayTag (name : String) (known : Bool) (closers : List String) (inner : Option String)
  | openBody (closers : List String) (inner : Option String)
  | notAssignable (kind : String)
  | hyphenInName
  | contentInRequired
  | hiddenImport
  | plainAfterDefault
  | noCall
  deriving DecidableEq, Repr

/-- The tags that would close the innermost body. -/
def shownTags : List String → List Char
  | [] => []
  | [t] => quoted t.toList
  | t :: ts => quoted t.toList ++ " or ".toList ++ shownTags ts

/-- A sentence that names the innermost open statement. -/
def innermost : Option String → List Char
  | none => []
  | some t => " The innermost block that needs to be closed is ".toList ++ quoted t.toList ++ ['.']

/-- What is looked for where a tag is missing. -/
def missing (closers : List String) (inner : Option String) : List Char :=
  (if closers = [] then []
    else " Jinja was looking for the following tags: ".toList ++ shownTags closers ++ ['.']) ++
    innermost inner

/-- What is said of a tag that closes an outer body too early. -/
def mistaken (closers : List String) : List Char :=
  (" You probably made a nesting mistake. Jinja is expecting this tag, but currently looking " ++
    "for ").toList ++ shownTags closers ++ ['.']

def SyntaxFault.message : SyntaxFault → List Char
  | word f => f.message
  | unexpected t => "unexpected ".toList ++ quoted t.toList
  | expected d t =>
    "expected token ".toList ++ quoted d.toList ++ ", got ".toList ++ quoted t.toList
  | expectedAtEnd d =>
    "unexpected end of template, expected ".toList ++ quoted d.toList ++ ['.']
  | nameOrNumber => "expected name or number".toList
  | badArguments => "invalid syntax for function call expression".toList
  | noExpression t => "Expected an expression, got ".toList ++ quoted t.toList
  | chainedTests => "You cannot chain multiple tests with is".toList
  | tooDeep => "nested too deep".toList
  | noTag => "tag name expected".toList
  | strayTag name known closers inner =>
    "Encountered unknown tag ".toList ++ quoted name.toList ++ ['.'] ++
      (if known then mistaken closers ++ innermost inner else missing closers inner)
  | openBody closers inner => "Unexpected end of template.".toList ++ missing closers inner
  | notAssignable kind => "can't assign to ".toList ++ quoted kind.toList
  | hyphenInName => ("Block names in Jinja have to be valid Python identifiers and may not " ++
      "contain hyphens, use an underscore instead.").toList
  | contentInRequired => "Required blocks can only contain comments or whitespace".toList
  | hiddenImport => "names starting with an underline can not be imported".toList
  | plainAfterDefault => "non-default argument follows default argument".toList
  | noCall => "expected call".toList

end Daybook
