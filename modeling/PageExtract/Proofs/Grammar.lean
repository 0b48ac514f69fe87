import PageExtract.Expr.Basic
import PageExtract.Text.Characters

/-! Which texts are written forms of which expression. Every rule takes the text of its parts one
after the other, and nothing here says how a text is read. -/
namespace PageExtract.Grammar

def IsDigit (c : Char) : Prop := '0' ≤ c ∧ c ≤ '9'

def IsLetter (c : Char) : Prop := ('A' ≤ c ∧ c ≤ 'Z') ∨ ('a' ≤ c ∧ c ≤ 'z')

def StartsIdentifier (c : Char) : Prop := IsLetter c ∨ c = '_' ∨ c = '$' ∨ c = '-'

def ContinuesIdentifier (c : Char) : Prop := StartsIdentifier c ∨ IsDigit c

/-- `[A-Za-z_$-][A-Za-z0-9_$-]*` -/
inductive IdentifierText : List Char → Prop
  | intro {c : Char} {rest : List Char} (first : StartsIdentifier c)
      (others : ∀ d ∈ rest, ContinuesIdentifier d) : IdentifierText (c :: rest)

def Spaces (s : List Char) : Prop := ∀ c ∈ s, c = ' '

structure DigitsText (s : List Char) : Prop where
  nonempty : s ≠ []
  digits : ∀ c ∈ s, IsDigit c

inductive FractionText : List Char → List Char → Prop
  | none : FractionText [] []
  | point {s : List Char} (digits : DigitsText s) : FractionText s ('.' :: s)

def MarksExponent (c : Char) : Prop := c = 'e' ∨ c = 'E'

/-- `([eE][+-]?digits)?`, with the integer it writes. -/
inductive ExponentText : Int → List Char → Prop
  | none : ExponentText 0 []
  | unsigned {mark : Char} {s : List Char} (marked : MarksExponent mark) (digits : DigitsText s) :
      ExponentText (Numeral.naturalOf s) (mark :: s)
  | plus {mark : Char} {s : List Char} (marked : MarksExponent mark) (digits : DigitsText s) :
      ExponentText (Numeral.naturalOf s) (mark :: '+' :: s)
  | minus {mark : Char} {s : List Char} (marked : MarksExponent mark) (digits : DigitsText s) :
      ExponentText (-(Numeral.naturalOf s : Int)) (mark :: '-' :: s)

/-- `digits(.digits)?([eE][+-]?digits)?`, with the parts of the numeral. -/
inductive UnsignedText (negative : Bool) : Numeral → List Char → Prop
  | intro {whole digits fraction exponent : List Char} {power : Int} (wholeText : DigitsText whole)
      (fractionText : FractionText digits fraction) (exponentText : ExponentText power exponent) :
      UnsignedText negative ⟨negative, whole, digits, power⟩ (whole ++ (fraction ++ exponent))

/-- `-?digits(.digits)?([eE][+-]?digits)?` -/
inductive NumberText : Numeral → List Char → Prop
  | plain {n : Numeral} {s : List Char} (text : UnsignedText false n s) : NumberText n s
  | minus {n : Numeral} {s : List Char} (text : UnsignedText true n s) : NumberText n ('-' :: s)

def escapes : List (Char × Char) :=
  [('b', '\x08'), ('f', '\x0c'), ('n', '\n'), ('r', '\r'), ('t', '\t'), ('\\', '\\'), ('/', '/'),
   ('"', '"')]

/-- One item of a quoted string: a character, or a code unit of UTF-16. -/
inductive Piece where
  | char (c : Char)
  | unit (u : Nat)
deriving DecidableEq

inductive PieceText (quote : Char) : Piece → List Char → Prop
  | raw {c : Char} (notQuote : c ≠ quote) (notBackslash : c ≠ '\\') (printable : 0x1F < c.toNat) :
      PieceText quote (.char c) [c]
  | escape {letter c : Char} (simple : (letter, c) ∈ escapes) :
      PieceText quote (.char c) ['\\', letter]
  | unit {digits : List Char} {u : Nat} (four : digits.length = 4)
      (value : Hex.natural? digits = some u) : PieceText quote (.unit u) ('\\' :: 'u' :: digits)

inductive PiecesText (quote : Char) : List Piece → List Char → Prop
  | nil : PiecesText quote [] []
  | cons {p : Piece} {ps : List Piece} {s rest : List Char} (head : PieceText quote p s)
      (tail : PiecesText quote ps rest) : PiecesText quote (p :: ps) (s ++ rest)

/-- The characters of a string. A high surrogate and a low one behind it are one character, every
other surrogate is `U+FFFD`. -/
def decode : List Piece → List Char
  | [] => []
  | .char c :: rest => c :: decode rest
  | .unit high :: .unit low :: rest =>
    if Utf16.isHighSurrogate high && Utf16.isLowSurrogate low then
      Utf16.charOf (Utf16.combine high low) :: decode rest
    else Utf16.charOf high :: decode (.unit low :: rest)
  | .unit u :: rest => Utf16.charOf u :: decode rest

def IsQuote (c : Char) : Prop := c = '"' ∨ c = '\''

def keywords : List (String × Literal) :=
  [("true", .boolean true), ("false", .boolean false), ("null", .null), ("undefined", .undefined)]

inductive ArgumentText : Literal → List Char → Prop
  | number {numeral : Numeral} {n : Number} {s : List Char} (text : NumberText numeral s)
      (value : Number.read? s = some n) : ArgumentText (.number n) s
  | quoted {quote : Char} {pieces : List Piece} {s : List Char} (mark : IsQuote quote)
      (text : PiecesText quote pieces s) :
      ArgumentText (.string (String.ofList (decode pieces))) (quote :: (s ++ [quote]))
  | keyword {word : String} {literal : Literal} (known : (word, literal) ∈ keywords) :
      ArgumentText literal word.toList
  | word {s : List Char} (text : IdentifierText s) (notNumber : s.head? ≠ some '-')
      (notKeyword : String.ofList s ∉ keywords.map Prod.fst) :
      ArgumentText (.string (String.ofList s)) s

/-- `sp argument sp (',' sp argument sp)*` -/
inductive ArgumentsText : List Literal → List Char → Prop
  | last {literal : Literal} {before s after : List Char} (spacesBefore : Spaces before)
      (text : ArgumentText literal s) (spacesAfter : Spaces after) :
      ArgumentsText [literal] (before ++ (s ++ after))
  | more {literal : Literal} {literals : List Literal} {before s after rest : List Char}
      (spacesBefore : Spaces before) (text : ArgumentText literal s) (spacesAfter : Spaces after)
      (others : ArgumentsText literals rest) :
      ArgumentsText (literal :: literals) (before ++ (s ++ (after ++ ',' :: rest)))

/-- `sp identifier sp ('(' arguments ')')? sp` -/
inductive StageText : Call → List Char → Prop
  | bare {name before after : List Char} (spacesBefore : Spaces before)
      (identifier : IdentifierText name) (spacesAfter : Spaces after) :
      StageText ⟨String.ofList name, []⟩ (before ++ (name ++ after))
  | applied {args : List Literal} {name before between list after : List Char}
      (spacesBefore : Spaces before) (identifier : IdentifierText name)
      (spacesBetween : Spaces between) (arguments : ArgumentsText args list)
      (spacesAfter : Spaces after) :
      StageText ⟨String.ofList name, args⟩
        (before ++ (name ++ (between ++ '(' :: (list ++ ')' :: after))))

inductive ChainText : List Call → List Char → Prop
  | nil : ChainText [] []
  | cons {call : Call} {calls : List Call} {s rest : List Char} (stage : StageText call s)
      (others : ChainText calls rest) : ChainText (call :: calls) ('|' :: (s ++ rest))

/-- Two pipes and a constant; or a selector, which is all before the first pipe without white space
at its ends, and a chain of stages. -/
inductive ExpressionText : Expression → List Char → Prop
  | constant (s : List Char) : ExpressionText (.constant (String.ofList s)) ('|' :: '|' :: s)
  | query {calls : List Call} {before rest : List Char} (noPipe : '|' ∉ before)
      (chain : ChainText calls rest) (notConstant : ¬ ['|', '|'] <+: before ++ rest) :
      ExpressionText (.query (String.ofList (Blank.trim before)) calls) (before ++ rest)

end PageExtract.Grammar
