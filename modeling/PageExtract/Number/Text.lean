import PageExtract.Number.Decimal
import PageExtract.Text.Characters

/-! The plain form of a number, and which texts are numerals. -/
namespace PageExtract

structure Numeral where
  negative : Bool
  whole : List Char
  fraction : List Char
  exponent : Int
deriving DecidableEq

namespace Numeral

def digitValue (c : Char) : Nat := c.toNat - '0'.toNat

def naturalOf (digits : List Char) : Nat := digits.foldl (fun n c => 10 * n + digitValue c) 0

def toDecimal (n : Numeral) : Decimal :=
  ⟨naturalOf (n.whole ++ n.fraction), n.exponent - n.fraction.length⟩

def toNumber (n : Numeral) : Number := n.toDecimal.toNumber n.negative

def spanDigits (s : List Char) : List Char × List Char :=
  (s.takeWhile Char.isDigit, s.dropWhile Char.isDigit)

/-- An optional exponent in front: `e` or `E`, an optional sign, digits. Without digits nothing is
consumed. -/
def scanExponent (s : List Char) : Int × List Char :=
  match s with
  | mark :: rest =>
    if mark = 'e' || mark = 'E' then
      let (negative, unsigned) := match rest with
        | '-' :: r => (true, r)
        | '+' :: r => (false, r)
        | r => (false, r)
      match spanDigits unsigned with
      | ([], _) => (0, s)
      | (digits, after) =>
        (if negative then -(naturalOf digits : Int) else naturalOf digits, after)
    else (0, s)
  | [] => (0, s)

def scanFraction (s : List Char) : List Char × List Char :=
  match s with
  | '.' :: rest =>
    match spanDigits rest with
    | ([], _) => ([], s)
    | found => found
  | _ => ([], s)

theorem length_dropWhile_le {α : Type} (p : α → Bool) (s : List α) :
    (s.dropWhile p).length ≤ s.length := by
  induction s with
  | nil => simp
  | cons c rest ih =>
    simp only [List.dropWhile_cons]
    split
    · simp only [List.length_cons]
      omega
    · exact Nat.le_refl _

theorem spanDigits_length (s : List Char) : (spanDigits s).2.length ≤ s.length :=
  length_dropWhile_le _ s

theorem scanFraction_length (s : List Char) : (scanFraction s).2.length ≤ s.length := by
  unfold scanFraction
  split
  next rest =>
    have shorter := spanDigits_length rest
    split
    · exact Nat.le_refl _
    · simp only [List.length_cons]
      omega
  · exact Nat.le_refl _

theorem scanExponent_length (s : List Char) : (scanExponent s).2.length ≤ s.length := by
  unfold scanExponent
  split
  next mark rest =>
    split
    · have shorter (r : List Char) (le : r.length ≤ rest.length) :
          (spanDigits r).2.length ≤ (mark :: rest).length := by
        have := spanDigits_length r
        simp only [List.length_cons]
        omega
      split
      next negative unsigned sign =>
        have unsigned_le : unsigned.length ≤ rest.length := by
          split at sign <;> simp only [Prod.mk.injEq] at sign <;> simp [← sign.2]
        have := shorter unsigned unsigned_le
        split
        · exact Nat.le_refl _
        next found =>
          rw [found] at this
          exact this
    · exact Nat.le_refl _
  · exact Nat.le_refl _

def scan? (s : List Char) : Option (Numeral × List Char) :=
  let (negative, unsigned) := match s with
    | '-' :: rest => (true, rest)
    | _ => (false, s)
  match spanDigits unsigned with
  | ([], _) => none
  | (whole, afterWhole) =>
    let (fraction, afterFraction) := scanFraction afterWhole
    let (exponent, rest) := scanExponent afterFraction
    some (⟨negative, whole, fraction, exponent⟩, rest)

theorem scan?_length {s rest : List Char} {numeral : Numeral}
    (h : scan? s = some (numeral, rest)) : rest.length ≤ s.length := by
  unfold scan? at h
  split at h
  next negative unsigned sign =>
    have unsigned_le : unsigned.length ≤ s.length := by
      split at sign <;> simp only [Prod.mk.injEq] at sign <;> simp [← sign.2]
    have whole_le := spanDigits_length unsigned
    split at h
    · cases h
    next whole afterWhole _ found =>
      rw [found] at whole_le
      simp only at whole_le
      have fraction_le := scanFraction_length afterWhole
      have exponent_le := scanExponent_length (scanFraction afterWhole).2
      simp only [Option.some.injEq, Prod.mk.injEq] at h
      rw [← h.2]
      omega

end Numeral

namespace Number

/-- Integral numbers below this magnitude are written digit for digit. -/
def plainIntegralBound : Nat := Nat.pow 10 21

/-- The plain form: integral numbers as integers, `-0` as `0`, all else with the fewest digits and
no exponent. -/
def format : Number → String
  | nan => "NaN"
  | infinite true => "-Infinity"
  | infinite false => "Infinity"
  | finite s a =>
    let sign := if s && a.units != 0 then "-" else ""
    if a.isIntegral && a.floor < plainIntegralBound then sign ++ toString a.floor
    else sign ++ String.ofList (Decimal.shortest .up a).positional

def lowerAscii (s : List Char) : List Char := s.map Char.toLower

/-- An unsigned numeral that is the whole text: digits, a point or both, with digits on at least
one side, and an optional exponent; or a word for infinity or for not-a-number, in any case. -/
def readUnsigned? (negative : Bool) (s : List Char) : Option Number :=
  let word := lowerAscii s
  if word = "inf".toList || word = "infinity".toList then some (infinite negative)
  else if word = "nan".toList then some nan
  else
    let (whole, afterWhole) := Numeral.spanDigits s
    let (fraction, afterFraction) := match afterWhole with
      | '.' :: rest => Numeral.spanDigits rest
      | rest => ([], rest)
    if whole.isEmpty && fraction.isEmpty then none
    else
      match Numeral.scanExponent afterFraction with
      | (exponent, []) => some (Numeral.toNumber ⟨negative, whole, fraction, exponent⟩)
      | _ => none

def read? : List Char → Option Number
  | '-' :: rest => readUnsigned? true rest
  | '+' :: rest => readUnsigned? false rest
  | s => readUnsigned? false s

/-- Loose reading: blank text is zero, a numeral is its number, all else is not-a-number. -/
def ofText (s : String) : Number :=
  match Blank.trim s.toList with
  | [] => zero
  | t => (read? t).getD nan

end Number
end PageExtract
