import PageExtract.Json.Value
import PageExtract.Number.Text
import PageExtract.Text.Characters
import PageExtract.Tree

/-! Reading JSON. A reader gives a value and what is left of the text, or `none`. White space is
space, tab, line feed and carriage return. -/
namespace PageExtract.Json

def isSpace (c : Char) : Bool := c == ' ' || c == '\t' || c == '\n' || c == '\r'

def skipSpace (s : List Char) : List Char := s.dropWhile isSpace

def hexUnit? (s : List Char) : Option (Nat × List Char) :=
  match s with
  | a :: b :: c :: d :: rest => (Hex.natural? [a, b, c, d]).map (·, rest)
  | _ => none

def shortEscape? : Char → Option Char
  | '"' => some '"'
  | '\\' => some '\\'
  | '/' => some '/'
  | 'b' => some '\x08'
  | 'f' => some '\x0c'
  | 'n' => some '\n'
  | 'r' => some '\r'
  | 't' => some '\t'
  | _ => none

/-- What an escape stands for: a character, or nothing when it is half of a surrogate pair. -/
def escape? (s : List Char) : Option (Option Char × List Char) :=
  match s with
  | 'u' :: digits =>
    match hexUnit? digits with
    | none => none
    | some (unit, rest) =>
      if Utf16.isSurrogate unit then
        match rest with
        | '\\' :: 'u' :: more =>
          match hexUnit? more with
          | none => none
          | some (low, after) =>
            if Utf16.isHighSurrogate unit && Utf16.isLowSurrogate low then
              some (some (Utf16.charOf (Utf16.combine unit low)), after)
            else some (none, rest)
        | _ => some (none, rest)
      else some (some (Utf16.charOf unit), rest)
  | c :: rest => (shortEscape? c).map fun value => (some value, rest)
  | [] => none

/-- The characters of a text that is read: reversed, or `none` after half of a surrogate pair. -/
abbrev Gathered := Option (List Char)

def textBody? : Nat → Gathered → List Char → Option (Gathered × List Char)
  | 0, _, _ => none
  | fuel + 1, gathered, s =>
    match s with
    | [] => none
    | '"' :: rest => some (gathered, rest)
    | '\\' :: rest =>
      match escape? rest with
      | none => none
      | some (value, after) =>
        textBody? fuel (gathered.bind fun reversed => value.map (· :: reversed)) after
    | c :: rest =>
      if c.toNat < 0x20 then none else textBody? fuel (gathered.map (c :: ·)) rest

def text? (s : List Char) : Option (Option String × List Char) :=
  (textBody? (s.length + 1) (some []) s).map fun (gathered, rest) =>
    (gathered.map fun reversed => String.ofList reversed.reverse, rest)

def hasPlainWhole (whole : List Char) : Bool :=
  match whole with
  | '0' :: _ :: _ => false
  | _ => true

def endsNumber (rest : List Char) : Bool :=
  match rest with
  | '.' :: _ | 'e' :: _ | 'E' :: _ => false
  | _ => true

def numeral? (s : List Char) : Option (Value × List Char) :=
  match Numeral.scan? s with
  | none => none
  | some (numeral, rest) =>
    if hasPlainWhole numeral.whole && endsNumber rest then
      let consumed := s.take (s.length - rest.length)
      if consumed.all fun c => c.isDigit || c == '-' then
        let n := Numeral.naturalOf numeral.whole
        some (.integer (if numeral.negative then -(n : Int) else n), rest)
      else some (.number numeral.toNumber, rest)
    else none

def word? (word : List Char) (value : Value) (s : List Char) : Option (Value × List Char) :=
  if word.isPrefixOf s then some (value, s.drop word.length) else none

def objectOf (fields : List (Option String × Value)) : Value :=
  match fields.mapM fun (key, v) => key.map (·, v) with
  | some readable => .object readable
  | none => .unreadable

mutual

def value? : Nat → List Char → Option (Value × List Char)
  | 0, _ => none
  | fuel + 1, s =>
    match skipSpace s with
    | [] => none
    | '"' :: rest => (text? rest).map fun (text, left) => ((text.map .string).getD .unreadable, left)
    | '[' :: rest =>
      match skipSpace rest with
      | ']' :: left => some (.array [], left)
      | _ => (items? fuel rest).map fun (items, left) => (.array items, left)
    | '\x7b' :: rest =>
      match skipSpace rest with
      | '\x7d' :: left => some (.object [], left)
      | _ => (fields? fuel rest).map fun (fields, left) => (objectOf fields, left)
    | c :: rest =>
      if c == 't' then word? "true".toList (.boolean true) (c :: rest)
      else if c == 'f' then word? "false".toList (.boolean false) (c :: rest)
      else if c == 'n' then word? "null".toList .null (c :: rest)
      else numeral? (c :: rest)

def items? : Nat → List Char → Option (List Value × List Char)
  | 0, _ => none
  | fuel + 1, s =>
    match value? fuel s with
    | none => none
    | some (v, rest) =>
      match skipSpace rest with
      | ']' :: left => some ([v], left)
      | ',' :: more => (items? fuel more).map fun (items, left) => (v :: items, left)
      | _ => none

def fields? : Nat → List Char → Option (List (Option String × Value) × List Char)
  | 0, _ => none
  | fuel + 1, s =>
    match skipSpace s with
    | '"' :: opened =>
      match text? opened with
      | none => none
      | some (key, afterKey) =>
        match skipSpace afterKey with
        | ':' :: afterColon =>
          match value? fuel afterColon with
          | none => none
          | some (v, rest) =>
            match skipSpace rest with
            | '\x7d' :: left => some ([(key, v)], left)
            | ',' :: more => (fields? fuel more).map fun (fields, left) => ((key, v) :: fields, left)
            | _ => none
        | _ => none
    | _ => none

end

def parse? (text : String) : Option Value :=
  match value? (text.length + 1) text.toList with
  | some (v, rest) => if (skipSpace rest).isEmpty then some v else none
  | none => none

mutual

/-- Only strings can be read as text. -/
def Value.toTree : Value → Tree
  | .null => .scalar .null
  | .boolean b => .scalar (.ofBoolean b)
  | .integer _ => .scalar .other
  | .number _ => .scalar .other
  | .string s => .text s
  | .array items => .sequence (itemTrees items)
  | .object fields => .mapping (fieldTrees fields)
  | .unreadable => .scalar .other

def itemTrees : List Value → List Tree
  | [] => []
  | v :: rest => v.toTree :: itemTrees rest

def fieldTrees : List (String × Value) → List (Option String × Tree)
  | [] => []
  | (key, v) :: rest => (some key, v.toTree) :: fieldTrees rest

end

def content? (text : String) : Option Tree := (parse? text).map Value.toTree

end PageExtract.Json
