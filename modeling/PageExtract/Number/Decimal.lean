import PageExtract.Number.Basic

/-! Reading a decimal as the nearest number, and the fewest digits that read back to a number. -/
namespace PageExtract

structure Decimal where
  digits : Nat
  exponent : Int
deriving DecidableEq

namespace Decimal

def ratio (d : Decimal) : Nat × Nat :=
  (d.digits * Nat.pow 10 d.exponent.toNat * Magnitude.unitsPerOne, Nat.pow 10 (-d.exponent).toNat)

/-- The decimal is at least `10 ^ 400`, far out of range. -/
def isHuge (d : Decimal) : Bool := d.digits != 0 && d.exponent > 400

/-- The decimal is below `2 ^ -1080`, far below half a unit. -/
def isTiny (d : Decimal) : Bool :=
  d.digits == 0 || d.digits.log2 + 1081 < 3 * (-d.exponent).toNat

def toMagnitude? (d : Decimal) : Option Magnitude :=
  if d.isTiny then some .zero
  else if d.isHuge then none
  else Magnitude.ofRatio? d.ratio.1 d.ratio.2

def toNumber (negative : Bool) (d : Decimal) : Number :=
  match d.toMagnitude? with
  | some a => .finite negative a
  | none => .infinite negative

inductive Tie where
  | up
  | even
deriving DecidableEq

/-- The least `k` with `a < 10 ^ k`, for a magnitude that is not zero: the place before the leading
digit. It is estimated from the binary logarithm and then corrected. -/
def leadingPlace (a : Magnitude) : Int :=
  let estimate : Int := ((a.units.log2 : Int) - 1074) * 30103 / 100000 - 1
  let below (k : Int) : Bool :=
    a.units * Nat.pow 10 (-k).toNat < Nat.pow 10 k.toNat * Magnitude.unitsPerOne
  if below estimate then estimate
  else if below (estimate + 1) then estimate + 1
  else if below (estimate + 2) then estimate + 2
  else estimate + 3

def neighbours (a : Magnitude) (exponent : Int) : Decimal × Decimal × Ordering :=
  let num := a.units * Nat.pow 10 (-exponent).toNat
  let den := Nat.pow 10 exponent.toNat * Magnitude.unitsPerOne
  (⟨num / den, exponent⟩, ⟨num / den + 1, exponent⟩, compare (2 * (num % den)) den)

/-- The nearest decimal on the grid of `10 ^ exponent` that reads back to `a`. -/
def onGrid? (tie : Tie) (a : Magnitude) (exponent : Int) : Option Decimal :=
  let (low, high, half) := neighbours a exponent
  let lowReads := low.toMagnitude? == some a
  let highReads := high.toMagnitude? == some a
  if lowReads && highReads then
    match half, tie with
    | .lt, _ => some low
    | .gt, _ => some high
    | .eq, .up => some high
    | .eq, .even => some (if low.digits % 2 == 0 then low else high)
  else if lowReads then some low
  else if highReads then some high
  else none

def exact (a : Magnitude) : Decimal := ⟨a.units * Nat.pow 5 1074, -1074⟩

def strip : Nat → Decimal → Decimal
  | 0, d => d
  | fuel + 1, d =>
    if d.digits != 0 && d.digits % 10 == 0 then strip fuel ⟨d.digits / 10, d.exponent + 1⟩ else d

/-- The fewest digits that read back to `a`; of those the nearest. -/
def shortest (tie : Tie) (a : Magnitude) : Decimal :=
  if a.units = 0 then ⟨0, 0⟩
  else
    let place := leadingPlace a
    match (List.range 17).findSome? fun (n : Nat) => onGrid? tie a (place - (n + 1)) with
    | some d => strip 20 d
    | none => exact a

def digitChars (n : Nat) : List Char := (toString n).toList

def positional (d : Decimal) : List Char :=
  let text := digitChars d.digits
  if d.exponent ≥ 0 then
    if d.digits = 0 then text else text ++ List.replicate d.exponent.toNat '0'
  else
    let places := (-d.exponent).toNat
    let padded := List.replicate (places + 1 - text.length) '0' ++ text
    padded.take (padded.length - places) ++ '.' :: padded.drop (padded.length - places)

def scientific (d : Decimal) : List Char :=
  match digitChars d.digits with
  | [] => []
  | lead :: rest =>
    let exponent := d.exponent + rest.length
    let sign := if exponent < 0 then '-' else '+'
    lead :: (if rest.isEmpty then [] else '.' :: rest) ++ 'e' :: sign :: digitChars exponent.natAbs

end Decimal
end PageExtract
