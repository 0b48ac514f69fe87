import PageExtract.Number.Text
import PageExtract.Text.Characters
import PageExtract.Tree

/-! Values without quotes: numbers, moments and the two truth values. Of a number only its form and
its range matter. -/
namespace PageExtract.Toml

def isGrouped (isDigit : Char → Bool) : List Char → Bool
  | [] => false
  | [c] => isDigit c
  | c :: '_' :: rest => isDigit c && isGrouped isDigit rest
  | c :: rest => isDigit c && isGrouped isDigit rest

def isWhole : List Char → Bool
  | [c] => c.isDigit
  | '0' :: _ => false
  | s => isGrouped Char.isDigit s

def withoutGroups (s : List Char) : List Char := s.filter (· != '_')

def signed : List Char → Bool × List Char
  | '-' :: rest => (true, rest)
  | '+' :: rest => (false, rest)
  | s => (false, s)

def integerBound : Nat := Nat.pow 2 63

def isDecimalInteger (s : List Char) : Bool :=
  let (negative, digits) := signed s
  let n := Numeral.naturalOf (withoutGroups digits)
  isWhole digits && (n < integerBound || (negative && n == integerBound))

def isOctalDigit (c : Char) : Bool := '0' ≤ c && c ≤ '7'

def isBinaryDigit (c : Char) : Bool := c == '0' || c == '1'

def isBasedInteger (base : Nat) (isDigit : Char → Bool) (digits : List Char) : Bool :=
  let value := (withoutGroups digits).foldl (fun n c => base * n + (Hex.value? c).getD 0) 0
  isGrouped isDigit digits && value < integerBound

def isInteger : List Char → Bool
  | '0' :: 'x' :: digits => isBasedInteger 16 Hex.isDigit digits
  | '0' :: 'o' :: digits => isBasedInteger 8 isOctalDigit digits
  | '0' :: 'b' :: digits => isBasedInteger 2 isBinaryDigit digits
  | s => isDecimalInteger s

def isGroupChar (c : Char) : Bool := c.isDigit || c == '_'

def isExponent : List Char → Bool
  | mark :: rest => (mark == 'e' || mark == 'E') && isGrouped Char.isDigit (signed rest).2
  | [] => false

def isFractional : List Char → Bool
  | '.' :: rest =>
    let after := rest.dropWhile isGroupChar
    isGrouped Char.isDigit (rest.takeWhile isGroupChar) && (after.isEmpty || isExponent after)
  | s => isExponent s

/-- A number with a fraction or an exponent. It can be too small but not too large. -/
def isFloat (s : List Char) : Bool :=
  let unsigned := (signed s).2
  isWhole (unsigned.takeWhile isGroupChar) && isFractional (unsigned.dropWhile isGroupChar)
    && Number.read? (withoutGroups s) != some (.infinite false)

def isSpecial (s : List Char) : Bool :=
  let word := (signed s).2
  word == "inf".toList || word == "nan".toList

def natural? (digits : List Char) : Option Nat :=
  if digits.all Char.isDigit then some (Numeral.naturalOf digits) else none

def isPair (low high : Nat) (a b : Char) : Bool :=
  (natural? [a, b]).any fun n => low ≤ n && n ≤ high

def isLeapYear (year : Nat) : Bool := year % 4 == 0 && (year % 100 != 0 || year % 400 == 0)

def monthLength (year month : Nat) : Nat :=
  if month = 2 then if isLeapYear year then 29 else 28
  else if month = 4 || month = 6 || month = 9 || month = 11 then 30
  else 31

def isDay (year month day : List Char) : Bool :=
  match natural? year, natural? month, natural? day with
  | some y, some m, some d => 1 ≤ m && m ≤ 12 && 1 ≤ d && d ≤ monthLength y m
  | _, _, _ => false

def day? (s : List Char) : Option (List Char × List Char) :=
  match s with
  | a :: b :: c :: d :: '-' :: e :: f :: '-' :: g :: h :: rest =>
    if isDay [a, b, c, d] [e, f] [g, h] then some (s.take 10, rest) else none
  | _ => none

def trimZeros (digits : List Char) : List Char := (digits.reverse.dropWhile (· == '0')).reverse

/-- Nine digits of a fraction of a second are kept, without zeros at their end. -/
def secondsFraction (digits : List Char) : List Char :=
  match trimZeros (digits.take 9) with
  | [] => []
  | kept => '.' :: kept

def time? (s : List Char) : Option (List Char × List Char) :=
  match s with
  | a :: b :: ':' :: c :: d :: ':' :: e :: f :: rest =>
    if isPair 0 23 a b && isPair 0 59 c d && isPair 0 60 e f then
      match rest with
      | '.' :: more =>
        match Numeral.spanDigits more with
        | ([], _) => none
        | (digits, after) => some (s.take 8 ++ secondsFraction digits, after)
      | _ => some (s.take 8, rest)
    else none
  | _ => none

def offset? (s : List Char) : Option (List Char) :=
  match s with
  | [] => some []
  | ['Z'] => some ['Z']
  | ['z'] => some ['Z']
  | [sign, a, b, ':', c, d] =>
    if (sign == '+' || sign == '-') && isPair 0 23 a b && isPair 0 59 c d then
      if [a, b, c, d].all (· == '0') then some "+00:00".toList else some s
    else none
  | _ => none

def clock? (s : List Char) : Option (List Char) :=
  (time? s).bind fun (time, rest) => (offset? rest).map (time ++ ·)

def moment? (s : List Char) : Option (List Char) :=
  match day? s with
  | none =>
    match time? s with
    | some (time, []) => some time
    | _ => none
  | some (day, []) => some day
  | some (day, mark :: rest) =>
    if mark == 'T' || mark == 't' || mark == ' ' then
      (clock? rest).map fun clock => day ++ 'T' :: clock
    else none

/-- A moment is a table with one entry of this name. -/
def momentKey : String := "$__toml_private_datetime"

def momentTree (text : List Char) : Tree :=
  .mapping [(some momentKey, .text (String.ofList text))]

def endsWord (c : Char) : Bool := " \t\r\n,]\x7d#".toList.contains c

def wordTree? (word : List Char) : Option Tree :=
  if word = "true".toList then some (.scalar (.ofBoolean true))
  else if word = "false".toList then some (.scalar (.ofBoolean false))
  else if isInteger word || isFloat word || isSpecial word then some (.scalar .other)
  else (moment? word).map momentTree

/-- A word in front. A day and a time can have a space between them. -/
def word? (s : List Char) : Option (Tree × List Char) :=
  let word := s.takeWhile fun c => !endsWord c
  let rest := s.drop word.length
  match rest with
  | ' ' :: more =>
    let second := more.takeWhile fun c => !endsWord c
    match moment? (word ++ ' ' :: second) with
    | some text => some (momentTree text, more.drop second.length)
    | none => (wordTree? word).map (·, rest)
  | _ => (wordTree? word).map (·, rest)

end PageExtract.Toml
