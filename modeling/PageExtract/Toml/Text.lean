import PageExtract.Text.Characters

/-! A text stands between quotation marks or apostrophes, on one line or, between three of them, on
any number of lines. Only quotation marks allow escapes. -/
namespace PageExtract.Toml

def isSpace (c : Char) : Bool := c == ' ' || c == '\t'

def skipSpace (s : List Char) : List Char := s.dropWhile isSpace

def isPlain (c : Char) : Bool := c == '\t' || (c.toNat ≥ 0x20 && c.toNat != 0x7F)

def afterBreak? : List Char → Option (List Char)
  | '\n' :: rest => some rest
  | '\r' :: '\n' :: rest => some rest
  | _ => none

def skipBlank : List Char → List Char
  | ' ' :: rest => skipBlank rest
  | '\t' :: rest => skipBlank rest
  | '\n' :: rest => skipBlank rest
  | '\r' :: '\n' :: rest => skipBlank rest
  | s => s

structure Quoting where
  mark : Char
  escapes : Bool
  manyLines : Bool

def codePoint? (width : Nat) (s : List Char) : Option (Char × List Char) :=
  if (s.take width).length = width then
    match Hex.natural? (s.take width) with
    | some code => if code.isValidChar then some (Char.ofNat code, s.drop width) else none
    | none => none
  else none

def escape? : List Char → Option (Char × List Char)
  | 'b' :: rest => some ('\x08', rest)
  | 't' :: rest => some ('\t', rest)
  | 'n' :: rest => some ('\n', rest)
  | 'f' :: rest => some ('\x0c', rest)
  | 'r' :: rest => some ('\r', rest)
  | '"' :: rest => some ('"', rest)
  | '\\' :: rest => some ('\\', rest)
  | 'u' :: rest => codePoint? 4 rest
  | 'U' :: rest => codePoint? 8 rest
  | _ => none

def continuation? (s : List Char) : Option (List Char) := (afterBreak? (skipSpace s)).map skipBlank

/-- After three marks up to two more belong to the text. -/
def closingMarks (mark : Char) (s : List Char) : List Char × List Char :=
  ((s.take 2).takeWhile (· == mark), (s.take 2).dropWhile (· == mark) ++ s.drop 2)

def textBody? (q : Quoting) : Nat → List Char → Option (List Char × List Char)
  | 0, _ => none
  | fuel + 1, s =>
    let push (c : Char) (rest : List Char) :=
      (textBody? q fuel rest).map fun (text, left) => (c :: text, left)
    match s with
    | [] => none
    | c :: rest =>
      if c = q.mark then
        if !q.manyLines then some ([], rest)
        else if [c, c].isPrefixOf rest then some (closingMarks c (rest.drop 2))
        else push c rest
      else if c = '\\' && q.escapes then
        match if q.manyLines then continuation? rest else none with
        | some after => textBody? q fuel after
        | none => (escape? rest).bind fun (value, after) => push value after
      else if isPlain c then push c rest
      else if q.manyLines then (afterBreak? s).bind (push '\n')
      else none

def lineText? (s : List Char) : Option (String × List Char) :=
  match s with
  | c :: rest =>
    if c = '"' || c = '\'' then
      (textBody? ⟨c, c == '"', false⟩ (s.length + 1) rest).map fun (text, left) =>
        (String.ofList text, left)
    else none
  | [] => none

/-- A text, which starts at its opening mark. A line break directly after three marks is no part
of it. -/
def text? (s : List Char) : Option (String × List Char) :=
  match s with
  | c :: rest =>
    if (c = '"' || c = '\'') && [c, c].isPrefixOf rest then
      let opened := rest.drop 2
      (textBody? ⟨c, c == '"', true⟩ (s.length + 1) ((afterBreak? opened).getD opened)).map
        fun (text, left) => (String.ofList text, left)
    else lineText? s
  | [] => none

end PageExtract.Toml
