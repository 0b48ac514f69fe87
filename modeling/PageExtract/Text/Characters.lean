import PageExtract.Text.PropertyRows

/-! Characters: the Unicode property White_Space and trimming by it, properties by tables of
closed ranges of code points, the length of a text in UTF-8, surrogate pairs of code units, and
hexadecimal digits. -/
namespace PageExtract.Blank

def ranges : List (Nat × Nat) :=
  [(0x09, 0x0D), (0x20, 0x20), (0x85, 0x85), (0xA0, 0xA0), (0x1680, 0x1680), (0x2000, 0x200A),
   (0x2028, 0x2029), (0x202F, 0x202F), (0x205F, 0x205F), (0x3000, 0x3000)]

def isBlank (c : Char) : Bool := ranges.any fun r => r.1 ≤ c.toNat && c.toNat ≤ r.2

def trimStart (s : List Char) : List Char := s.dropWhile isBlank

def trimEnd (s : List Char) : List Char := (s.reverse.dropWhile isBlank).reverse

def trim (s : List Char) : List Char := trimEnd (trimStart s)

end PageExtract.Blank

namespace PageExtract.Utf8

def size : List Char → Nat
  | [] => 0
  | c :: rest => c.utf8Size + size rest

theorem size_append (s t : List Char) : size (s ++ t) = size s + size t := by
  induction s with
  | nil => simp [size]
  | cons c rest ih => simp [size, ih, Nat.add_assoc]

theorem size_eq_zero_iff (s : List Char) : size s = 0 ↔ s = [] := by
  cases s with
  | nil => simp [size]
  | cons c rest => simp [size, Nat.ne_of_gt c.utf8Size_pos]

end PageExtract.Utf8

namespace PageExtract.Utf16

def isHighSurrogate (unit : Nat) : Bool := 0xD800 ≤ unit && unit < 0xDC00

def isLowSurrogate (unit : Nat) : Bool := 0xDC00 ≤ unit && unit < 0xE000

def isSurrogate (unit : Nat) : Bool := isHighSurrogate unit || isLowSurrogate unit

def combine (high low : Nat) : Nat := 0x10000 + (high - 0xD800) * 0x400 + (low - 0xDC00)

def replacement : Char := '\uFFFD'

/-- The character of a code point, `U+FFFD` where there is none. -/
def charOf (code : Nat) : Char := if code.isValidChar then Char.ofNat code else replacement

end PageExtract.Utf16

namespace PageExtract.Hex

def value? (c : Char) : Option Nat :=
  if '0' ≤ c && c ≤ '9' then some (c.toNat - '0'.toNat)
  else if 'a' ≤ c && c ≤ 'f' then some (c.toNat - 'a'.toNat + 10)
  else if 'A' ≤ c && c ≤ 'F' then some (c.toNat - 'A'.toNat + 10)
  else none

def isDigit (c : Char) : Bool := (value? c).isSome

def natural? (digits : List Char) : Option Nat :=
  digits.foldlM (fun n c => (value? c).map (16 * n + ·)) 0

def digits (n : Nat) : List Char := Nat.toDigits 16 n

def padded (width n : Nat) : List Char :=
  List.replicate (width - (digits n).length) '0' ++ digits n

end PageExtract.Hex

namespace PageExtract.CharProperty

structure Range where
  first : Nat
  last : Nat

def rangeOf? (row : String) : Option Range :=
  match (row.splitOn " ").filterMap String.toNat? with
  | [first, last] => some ⟨first, last⟩
  | _ => none

def rangesOf (rows : List String) : List Range :=
  (rows.flatMap fun row => row.splitOn ",").filterMap rangeOf?

def holds (ranges : List Range) (c : Char) : Bool :=
  ranges.any fun r => r.first ≤ c.toNat && c.toNat ≤ r.last

def casedRanges : List Range := rangesOf casedRows

def caseIgnorableRanges : List Range := rangesOf caseIgnorableRows

def extendingRanges : List Range := rangesOf extendingRows

def hiddenRanges : List Range := rangesOf hiddenRows

def isCased (c : Char) : Bool := holds casedRanges c

def isCaseIgnorable (c : Char) : Bool := holds caseIgnorableRanges c

def isExtending (c : Char) : Bool := holds extendingRanges c

def isHidden (c : Char) : Bool := holds hiddenRanges c

end PageExtract.CharProperty
