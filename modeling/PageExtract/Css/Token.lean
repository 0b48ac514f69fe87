import PageExtract.Number.Text
import PageExtract.Text.Characters

/-! A selector text is cut into tokens, and the tokens between brackets are nested. A bracket that
is left open ends with the text. -/
namespace PageExtract.Css

inductive Bracket where
  | round
  | square
  | curly
deriving DecidableEq

inductive Comparison where
  | equal
  | includes
  | dash
  | start
  | ending
  | substring
deriving DecidableEq

inductive Token where
  | space
  | ident (name : String)
  | function (name : String)
  | hash (name : String)
  | string (s : String)
  | number (signed : Bool) (value : Option Int)
  | dimension (value : Option Int) (unit : String)
  | comparison (op : Comparison)
  | colon
  | comma
  | opening (b : Bracket)
  | closing (b : Bracket)
  | delim (c : Char)
  | other
deriving DecidableEq

namespace Token

def isNewline (c : Char) : Bool := c == '\n' || c == '\r' || c == '\x0c'

def isSpace (c : Char) : Bool := c == ' ' || c == '\t' || isNewline c

def isNameStart (c : Char) : Bool := c.isAlpha || c == '_' || c == '\x00' || c.toNat ≥ 0x80

def isNamePart (c : Char) : Bool := isNameStart c || c.isDigit || c == '-'

def startsEscape (s : List Char) : Bool :=
  match s with
  | '\\' :: c :: _ => !isNewline c
  | ['\\'] => true
  | _ => false

def startsName (s : List Char) : Bool :=
  match s with
  | '-' :: rest =>
    startsEscape rest || rest.head?.any fun c => isNameStart c || c == '-'
  | c :: _ => isNameStart c || startsEscape s
  | [] => false

def escape (s : List Char) : Char × Nat :=
  match s with
  | [] => (Utf16.replacement, 0)
  | c :: _ =>
    let digits := (s.take 6).takeWhile Hex.isDigit
    if digits.isEmpty then ((if c = '\x00' then Utf16.replacement else c), 1)
    else
      let code := (Hex.natural? digits).getD 0
      let gap := match s.drop digits.length with
        | '\r' :: '\n' :: _ => 2
        | c :: _ => if isSpace c then 1 else 0
        | [] => 0
      ((if code = 0 then Utf16.replacement else Utf16.charOf code), digits.length + gap)

def nameFrom (read : List Char) (s : List Char) : String × List Char :=
  match s with
  | [] => (String.ofList read.reverse, [])
  | c :: rest =>
    if c = '\\' then
      if startsEscape s then
        let found := escape rest
        nameFrom (found.1 :: read) (rest.drop found.2)
      else (String.ofList read.reverse, s)
    else if isNamePart c then nameFrom ((if c = '\x00' then Utf16.replacement else c) :: read) rest
    else (String.ofList read.reverse, s)
termination_by s.length
decreasing_by
  · simp only [List.length_drop, List.length_cons]
    omega
  · simp

def name (s : List Char) : String × List Char := nameFrom [] s

def stringFrom (quote : Char) (read : List Char) (s : List Char) : Token × List Char :=
  match s with
  | [] => (.string (String.ofList read.reverse), [])
  | c :: rest =>
    if c = quote then (.string (String.ofList read.reverse), rest)
    else if isNewline c then (.other, s)
    else if c = '\\' then
      match rest with
      | [] => (.string (String.ofList read.reverse), [])
      | '\r' :: '\n' :: after => stringFrom quote read after
      | n :: after =>
        if isNewline n then stringFrom quote read after
        else
          let found := escape (n :: after)
          stringFrom quote (found.1 :: read) ((n :: after).drop found.2)
    else stringFrom quote ((if c = '\x00' then Utf16.replacement else c) :: read) rest
termination_by s.length
decreasing_by
  all_goals simp only [List.length_drop, List.length_cons]
  all_goals omega

/-- What follows a comment opening. A comment that is left open ends with the text. -/
def afterComment (s : List Char) : List Char :=
  match s with
  | '*' :: '/' :: rest => rest
  | _ :: rest => afterComment rest
  | [] => []

def startsNumber (s : List Char) : Bool :=
  let unsigned := match s with
    | '+' :: rest | '-' :: rest => rest
    | _ => s
  match unsigned with
  | '.' :: c :: _ => c.isDigit
  | c :: _ => c.isDigit
  | [] => false

/-- Values beyond 32 bits stop at the ends of their range. -/
def clamp (n : Int) : Int := max (-2147483648) (min 2147483647 n)

def numeric (s : List Char) : Token × List Char :=
  let (signed, negative, unsigned) := match s with
    | '+' :: rest => (true, false, rest)
    | '-' :: rest => (true, true, rest)
    | _ => (false, false, s)
  let (whole, afterWhole) := Numeral.spanDigits unsigned
  let (fraction, afterFraction) := Numeral.scanFraction afterWhole
  let (_, rest) := Numeral.scanExponent afterFraction
  let isInteger := fraction.isEmpty && rest.length == afterFraction.length
  let magnitude : Int := Numeral.naturalOf whole
  let value := if isInteger then some (clamp (if negative then -magnitude else magnitude)) else none
  match rest with
  | '%' :: after => (.other, after)
  | _ =>
    if startsName rest then
      let (unit, after) := name rest
      (.dimension value unit, after)
    else (.number signed value, rest)

def afterAddress (s : List Char) : List Char :=
  match s with
  | ')' :: rest => rest
  | '\\' :: _ :: rest => afterAddress rest
  | _ :: rest => afterAddress rest
  | [] => []

def named (s : List Char) : Token × List Char :=
  match name s with
  | (n, '(' :: rest) =>
    let quoted := (rest.dropWhile isSpace).head?.any fun c => c == '"' || c == '\''
    if n.map Char.toLower == "url" && !quoted then (.other, afterAddress rest)
    else (.function n, rest)
  | (n, rest) => (.ident n, rest)

def sign (s : List Char) : Token × List Char :=
  match s with
  | '$' :: '=' :: rest => (.comparison .ending, rest)
  | '*' :: '=' :: rest => (.comparison .substring, rest)
  | '^' :: '=' :: rest => (.comparison .start, rest)
  | '|' :: '=' :: rest => (.comparison .dash, rest)
  | '~' :: '=' :: rest => (.comparison .includes, rest)
  | '-' :: '-' :: '>' :: rest => (.other, rest)
  | '<' :: '!' :: '-' :: '-' :: rest => (.other, rest)
  | '(' :: rest => (.opening .round, rest)
  | '[' :: rest => (.opening .square, rest)
  | '\x7b' :: rest => (.opening .curly, rest)
  | ')' :: rest => (.closing .round, rest)
  | ']' :: rest => (.closing .square, rest)
  | '\x7d' :: rest => (.closing .curly, rest)
  | ':' :: rest => (.colon, rest)
  | ',' :: rest => (.comma, rest)
  | ';' :: rest => (.other, rest)
  | '=' :: rest => (.comparison .equal, rest)
  | c :: rest => (.delim c, rest)
  | [] => (.other, [])

def next (s : List Char) : List Token × List Char :=
  let one (found : Token × List Char) : List Token × List Char := ([found.1], found.2)
  match s with
  | [] => ([], [])
  | '/' :: '*' :: rest => ([], afterComment rest)
  | '"' :: rest => one (stringFrom '"' [] rest)
  | '\'' :: rest => one (stringFrom '\'' [] rest)
  | '#' :: rest =>
    if startsName rest then
      let (n, after) := name rest
      ([.hash n], after)
    else if rest.head?.any fun c => c.isDigit || c == '-' then ([.other], (name rest).2)
    else ([.delim '#'], rest)
  | '@' :: rest => if startsName rest then ([.other], (name rest).2) else ([.delim '@'], rest)
  | c :: rest =>
    if isSpace c then ([.space], rest.dropWhile isSpace)
    else if startsNumber s then one (numeric s)
    else if s.take 3 == ['-', '-', '>'] then one (sign s)
    else if startsName s then one (named s)
    else one (sign s)

/-- All tokens of a text. Every step takes a character, so its length is fuel enough. -/
def all : Nat → List Char → List Token
  | 0, _ => []
  | fuel + 1, s =>
    if s.isEmpty then []
    else
      let (tokens, rest) := next s
      tokens ++ all fuel rest

end Token

inductive Part where
  | token (t : Token)
  | function (name : String) (content : List Part)
  | block (b : Bracket) (content : List Part)

namespace Part

structure Opened where
  bracket : Bracket
  function : Option String
  around : List Part

def close (o : Opened) (content : List Part) : Part :=
  match o.function with
  | some name => .function name content
  | none => .block o.bracket content

structure Nesting where
  opened : List Opened
  parts : List Part

def Nesting.step (n : Nesting) (t : Token) : Nesting :=
  match t with
  | .function name => ⟨⟨.round, some name, n.parts⟩ :: n.opened, []⟩
  | .opening b => ⟨⟨b, none, n.parts⟩ :: n.opened, []⟩
  | .closing b =>
    match n.opened with
    | o :: outer =>
      if o.bracket = b then ⟨outer, close o n.parts.reverse :: o.around⟩
      else ⟨n.opened, .token t :: n.parts⟩
    | [] => ⟨[], .token t :: n.parts⟩
  | t => ⟨n.opened, .token t :: n.parts⟩

def Nesting.finish (parts : List Part) : List Opened → List Part
  | [] => parts.reverse
  | o :: outer => finish (close o parts.reverse :: o.around) outer

def ofTokens (tokens : List Token) : List Part :=
  let n := tokens.foldl Nesting.step ⟨[], []⟩
  Nesting.finish n.parts n.opened

def ofText (s : String) : List Part := ofTokens (Token.all s.length s.toList)

end Part
end PageExtract.Css
