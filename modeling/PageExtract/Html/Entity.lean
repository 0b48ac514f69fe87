import Std.Data.HashMap
import PageExtract.Html.EntityRows
import PageExtract.Text.Characters

/-! What an ampersand in text or in an attribute value stands for. A reader gives the characters
and how many characters after the ampersand it used. -/
namespace PageExtract.Html.Entity

def ofRow (row : String) : Option (String × List Char) :=
  match row.splitOn " " with
  | name :: codes => some (name, (codes.filterMap String.toNat?).map Utf16.charOf)
  | [] => none

def table : Std.HashMap String (List Char) :=
  Std.HashMap.ofList ((rows.flatMap fun row => row.splitOn ",").filterMap ofRow)

def longestName : Nat := 32

def longest? (s : List Char) : Nat → Option (List Char × List Char)
  | 0 => none
  | length + 1 =>
    let name := s.take (length + 1)
    match table[String.ofList name]? with
    | some value => some (name, value)
    | none => longest? s length

/-- A named reference. In an attribute, a name without its semicolon is plain text when a letter, a
digit or an equals sign follows. -/
def named (inAttribute : Bool) (s : List Char) : List Char × Nat :=
  let run := s.takeWhile Char.isAlphanum
  match longest? s (min longestName (run.length + 1)) with
  | none => (['&'], 0)
  | some (name, value) =>
    let continues := match s.drop name.length with
      | c :: _ => c == '=' || c.isAlphanum
      | [] => false
    if inAttribute && name.getLast? != some ';' && continues then ('&' :: name, name.length)
    else (value, name.length)

/-- Code points `0x80` to `0x9F` stand for the characters of a common eight-bit set. -/
def highControls : List Nat :=
  [0x20AC, 0x81, 0x201A, 0x0192, 0x201E, 0x2026, 0x2020, 0x2021, 0x02C6, 0x2030, 0x0160, 0x2039,
   0x0152, 0x8D, 0x017D, 0x8F, 0x90, 0x2018, 0x2019, 0x201C, 0x201D, 0x2022, 0x2013, 0x2014,
   0x02DC, 0x2122, 0x0161, 0x203A, 0x0153, 0x9D, 0x017E, 0x0178]

def ofCode (code : Nat) : Char :=
  if code = 0 then Utf16.replacement
  else if 0x80 ≤ code && code ≤ 0x9F then Utf16.charOf (highControls.getD (code - 0x80) code)
  else Utf16.charOf code

def numeric (s : List Char) : List Char × Nat :=
  let (base, marks, body) := match s with
    | '#' :: 'x' :: rest => (16, 2, rest)
    | '#' :: 'X' :: rest => (16, 2, rest)
    | _ => (10, 1, s.drop 1)
  let digits := body.takeWhile fun c => if base = 16 then Hex.isDigit c else c.isDigit
  if digits.isEmpty then (['&'], 0)
  else
    let code := digits.foldl (fun n c => base * n + (Hex.value? c).getD 0) 0
    let used := marks + digits.length
    ([ofCode code], if s[used]? = some ';' then used + 1 else used)

def lacksSemicolon (s : List Char) : Bool :=
  match s with
  | '&' :: '#' :: rest =>
    let used := (numeric ('#' :: rest)).2
    used != 0 && ('#' :: rest)[used - 1]? != some ';'
  | _ => false

def reference (inAttribute : Bool) (s : List Char) : List Char × Nat :=
  match s with
  | '#' :: _ => numeric s
  | c :: _ => if c.isAlphanum then named inAttribute s else (['&'], 0)
  | [] => (['&'], 0)

def decodeOnto (inAttribute : Bool) (decoded : List Char) (s : List Char) : List Char :=
  match s with
  | [] => decoded.reverse
  | c :: rest =>
    if c = '&' then
      let found := reference inAttribute rest
      decodeOnto inAttribute (found.1.reverse ++ decoded) (rest.drop found.2)
    else decodeOnto inAttribute (c :: decoded) rest
termination_by s.length
decreasing_by
  · simp only [List.length_drop, List.length_cons]
    omega
  · simp

def decode (inAttribute : Bool) (s : List Char) : List Char := decodeOnto inAttribute [] s

end PageExtract.Html.Entity
