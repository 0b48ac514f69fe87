/-! The rest of a file with its place: line and column decide about structure. -/
namespace PageExtract.Yaml

def isBreak (c : Char) : Bool :=
  c == '\n' || c == '\r' || c == '\u0085' || c == '\u2028' || c == '\u2029'

def isBlank (c : Char) : Bool := c == ' ' || c == '\t'

def isWordChar (c : Char) : Bool := c.isAlphanum || c == '_' || c == '-'

def isSeparated : List Char → Bool
  | [] => true
  | c :: _ => isBlank c || isBreak c

def isAllowed (c : Char) : Bool :=
  let n := c.toNat
  n == 0x09 || n == 0x0A || n == 0x0D || (0x20 ≤ n && n ≤ 0x7E) || n == 0x85
    || (0xA0 ≤ n && n ≤ 0xD7FF) || (0xE000 ≤ n && n ≤ 0xFFFD) || 0x10000 ≤ n

structure Cursor where
  rest : List Char
  index : Nat
  line : Nat
  column : Nat

namespace Cursor

def start (s : List Char) : Cursor := ⟨s, 0, 0, 0⟩

def next? (k : Cursor) : Option Char := k.rest.head?

def startsWith (k : Cursor) (c : Char) : Bool := k.next? == some c

def atEnd (k : Cursor) : Bool := k.rest.isEmpty

def atBlank (k : Cursor) : Bool := k.next?.any isBlank

def atBreak (k : Cursor) : Bool := k.next?.any isBreak

def isSeparated (k : Cursor) : Bool := Yaml.isSeparated k.rest

def skip (k : Cursor) (count : Nat) : Cursor :=
  ⟨k.rest.drop count, k.index + count, k.line, k.column + count⟩

def skipWhile (k : Cursor) (p : Char → Bool) : Cursor := k.skip (k.rest.takeWhile p).length

def skipBreak (k : Cursor) : Cursor :=
  match k.rest with
  | '\r' :: '\n' :: rest => ⟨rest, k.index + 2, k.line + 1, 0⟩
  | c :: rest => if isBreak c then ⟨rest, k.index + 1, k.line + 1, 0⟩ else k
  | [] => k

def breakText (k : Cursor) : List Char :=
  match k.next? with
  | some c => if c = '\u2028' || c = '\u2029' then [c] else if isBreak c then ['\n'] else []
  | none => []

def skipLine (k : Cursor) : Cursor := k.skipWhile fun c => !isBreak c

def skipRemark (k : Cursor) : Cursor :=
  let k := k.skipWhile isBlank
  if k.startsWith '#' then k.skipLine else k

def atMark (k : Cursor) (c : Char) : Bool :=
  k.column == 0 && [c, c, c].isPrefixOf k.rest && Yaml.isSeparated (k.rest.drop 3)

def atDocumentMark (k : Cursor) : Bool := k.atMark '-' || k.atMark '.'

end Cursor
end PageExtract.Yaml
