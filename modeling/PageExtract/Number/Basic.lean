/-! A number is not-a-number, an infinity, or a signed finite magnitude of at most 53 significant
bits. A magnitude counts units of `2 ^ -1074`, the finest finite number, so comparison, truncation
and rounding are exact arithmetic of naturals. -/
namespace PageExtract

def unitLimit : Nat := Nat.pow 2 2098

/-- A finite magnitude, counted in units of `2 ^ -1074`. -/
structure Magnitude where
  units : Nat
  units_lt : units < unitLimit
  aligned : Nat.pow 2 (units.log2 - 52) ∣ units
deriving DecidableEq

namespace Magnitude

def unitsPerOne : Nat := Nat.pow 2 1074

theorem aligned_two_pow (n : Nat) : Nat.pow 2 ((Nat.pow 2 n).log2 - 52) ∣ Nat.pow 2 n := by
  simp only [Nat.pow_eq, Nat.log2_two_pow]
  exact Nat.pow_dvd_pow 2 (by omega)

theorem unitLimit_pos : 0 < unitLimit := by
  unfold unitLimit
  exact Nat.two_pow_pos _

theorem unitsPerOne_lt : unitsPerOne < unitLimit := by
  unfold unitsPerOne unitLimit
  exact Nat.pow_lt_pow_right (by decide) (by decide)

def zero : Magnitude := ⟨0, unitLimit_pos, Nat.dvd_zero _⟩

def one : Magnitude where
  units := unitsPerOne
  units_lt := unitsPerOne_lt
  aligned := by
    unfold unitsPerOne
    exact aligned_two_pow _

/-- The quotient to the nearest natural, a half to the even neighbour. -/
def nearest (num den : Nat) : Nat :=
  let below := num / den
  match compare (2 * (num % den)) den with
  | .lt => below
  | .gt => below + 1
  | .eq => if below % 2 = 0 then below else below + 1

/-- The quotient to the nearest natural of at most 53 significant bits. -/
def roundUnits (num den : Nat) : Nat :=
  let places := (num / den).log2 - 52
  nearest num (den * Nat.pow 2 places) * Nat.pow 2 places

theorem nearest_le (num den : Nat) : nearest num den ≤ num / den + 1 := by
  simp only [nearest]
  split
  · omega
  · omega
  · split <;> omega

theorem div_lt_of_places (num den : Nat) :
    num / (den * Nat.pow 2 ((num / den).log2 - 52)) < Nat.pow 2 53 := by
  rw [← Nat.div_div_eq_div_mul]
  have high : num / den < Nat.pow 2 ((num / den).log2 + 1) := Nat.lt_log2_self
  generalize num / den = whole at *
  apply Nat.div_lt_of_lt_mul
  simp only [Nat.pow_eq, ← Nat.pow_add]
  exact Nat.lt_of_lt_of_le high (Nat.pow_le_pow_right (by decide) (by omega))

theorem aligned_of_le {count places : Nat} (bound : count ≤ Nat.pow 2 53) :
    Nat.pow 2 ((count * Nat.pow 2 places).log2 - 52) ∣ count * Nat.pow 2 places := by
  by_cases zero : count = 0
  · subst zero
    simp
  by_cases full : count = Nat.pow 2 53
  · subst full
    simp only [Nat.pow_eq, ← Nat.pow_add, Nat.log2_two_pow]
    exact Nat.pow_dvd_pow 2 (by omega)
  · have positive : 0 < Nat.pow 2 places := Nat.two_pow_pos places
    have below : count * Nat.pow 2 places < Nat.pow 2 (53 + places) := by
      simp only [Nat.pow_eq, Nat.pow_add] at *
      exact Nat.mul_lt_mul_of_pos_right (by omega) positive
    have notZero : count * Nat.pow 2 places ≠ 0 := Nat.mul_ne_zero zero (Nat.ne_of_gt positive)
    have logarithm := (Nat.log2_lt notZero).2 below
    exact Nat.dvd_trans (Nat.pow_dvd_pow 2 (by omega)) (Nat.dvd_mul_left _ _)

theorem aligned_roundUnits (num den : Nat) :
    Nat.pow 2 ((roundUnits num den).log2 - 52) ∣ roundUnits num den := by
  apply aligned_of_le
  have small := div_lt_of_places num den
  have close := nearest_le num (den * Nat.pow 2 ((num / den).log2 - 52))
  omega

def ofRatio? (num den : Nat) : Option Magnitude :=
  if range : roundUnits num den < unitLimit then
    some ⟨roundUnits num den, range, aligned_roundUnits num den⟩
  else none

def floor (a : Magnitude) : Nat := a.units / unitsPerOne

def isIntegral (a : Magnitude) : Bool := a.units % unitsPerOne == 0

end Magnitude

inductive Number where
  | nan
  | infinite (negative : Bool)
  | finite (negative : Bool) (magnitude : Magnitude)
deriving DecidableEq

namespace Number

/-- Numeric equality: not-a-number differs from itself and the two zeros agree. -/
def equals : Number → Number → Bool
  | infinite s, infinite t => s == t
  | finite s a, finite t b => a.units == b.units && (s == t || a.units == 0)
  | _, _ => false

def zero : Number := finite false Magnitude.zero

def one : Number := finite false Magnitude.one

def ofNat (n : Nat) : Number :=
  match Magnitude.ofRatio? (n * Magnitude.unitsPerOne) 1 with
  | some a => finite false a
  | none => infinite false

end Number

/-- An integer or an infinity: what an argument means where a position or a count is wanted. -/
inductive ExtInt where
  | negInfinity
  | int (n : Int)
  | infinity
deriving DecidableEq

namespace Number

/-- The number without its fraction; not-a-number counts as zero. -/
def toExtInt : Number → ExtInt
  | nan => .int 0
  | infinite true => .negInfinity
  | infinite false => .infinity
  | finite s a => .int (if s then -(a.floor : Int) else a.floor)

end Number
end PageExtract
