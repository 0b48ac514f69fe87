import PageExtract.Number.Decimal

/-! The rounding of a ratio depends on the ratio alone and keeps whatever has at most 53
significant bits. The shortcuts for decimals far out of range agree with it, so a decimal can be
written with fewer or more zeros without a change of its number. -/
namespace PageExtract

namespace Magnitude

theorem eq_of_units {a b : Magnitude} (h : a.units = b.units) : a = b := by
  cases a
  cases b
  simpa using h

theorem units_eq_zero_iff {a : Magnitude} : a.units = 0 ↔ a = zero :=
  ⟨fun h => eq_of_units h, fun h => by rw [h]; rfl⟩

theorem unitsPerOne_pos : 0 < unitsPerOne := by
  unfold unitsPerOne
  generalize 1074 = n
  exact Nat.two_pow_pos n

theorem floor_zero : zero.floor = 0 := by
  have units : zero.units = 0 := by rw [zero]
  rw [floor, units, Nat.zero_div]

theorem floor_one : one.floor = 1 := by
  have units : one.units = unitsPerOne := by rw [one]
  rw [floor, units]
  exact Nat.div_self unitsPerOne_pos

theorem floor_mul_of_isIntegral {a : Magnitude} (h : a.isIntegral = true) :
    a.floor * unitsPerOne = a.units :=
  Nat.div_mul_cancel (Nat.dvd_of_mod_eq_zero (eq_of_beq h))

theorem two_pow_mul_unitsPerOne (n : Nat) : Nat.pow 2 n * unitsPerOne = Nat.pow 2 (n + 1074) := by
  unfold unitsPerOne
  generalize 1074 = m
  exact (Nat.pow_add 2 n m).symm

theorem unitLimit_le_two_pow {n : Nat} (h : 2098 ≤ n) : unitLimit ≤ Nat.pow 2 n := by
  unfold unitLimit
  generalize 2098 = m at h ⊢
  exact Nat.pow_le_pow_right (by decide) h

theorem nearest_mul_left {k : Nat} (hk : 0 < k) (num den : Nat) :
    nearest (k * num) (k * den) = nearest num den := by
  have half : compare (2 * (k * num % (k * den))) (k * den) = compare (2 * (num % den)) den := by
    rw [Nat.mul_mod_mul_left, Nat.mul_left_comm 2 k]
    simp only [Nat.compare_eq_ite_lt, Nat.mul_lt_mul_left hk]
  simp only [nearest, Nat.mul_div_mul_left num den hk, half]

theorem roundUnits_mul_left {k : Nat} (hk : 0 < k) (num den : Nat) :
    roundUnits (k * num) (k * den) = roundUnits num den := by
  simp only [roundUnits, Nat.mul_div_mul_left num den hk, Nat.mul_assoc k den,
    nearest_mul_left hk]

theorem nearest_eq_zero {num den : Nat} (h : 2 * num < den) : nearest num den = 0 := by
  have below : num < den := by omega
  simp only [nearest, Nat.div_eq_of_lt below, Nat.mod_eq_of_lt below, Nat.compare_eq_lt.2 h]

theorem nearest_of_dvd {num den : Nat} (hd : 0 < den) (h : den ∣ num) :
    nearest num den = num / den := by
  have whole : compare (2 * (num % den)) den = .lt := by
    rw [Nat.mod_eq_zero_of_dvd h]
    exact Nat.compare_eq_lt.2 hd
  simp only [nearest, whole]

theorem div_le_nearest (num den : Nat) : num / den ≤ nearest num den := by
  simp only [nearest]
  split
  · exact Nat.le_refl _
  · omega
  · split <;> omega

theorem roundUnits_eq_zero {num den : Nat} (h : 2 * num < den) : roundUnits num den = 0 := by
  have below : num / den = 0 := Nat.div_eq_of_lt (by omega)
  simp [roundUnits, below, nearest_eq_zero h]

theorem roundUnits_units (a : Magnitude) {k : Nat} (hk : 0 < k) :
    roundUnits (a.units * k) k = a.units := by
  have scaled := roundUnits_mul_left hk a.units 1
  rw [Nat.mul_one, Nat.mul_comm] at scaled
  rw [scaled]
  have aligned := a.aligned
  simp only [roundUnits, Nat.div_one, Nat.one_mul]
  have positive : 0 < Nat.pow 2 (a.units.log2 - 52) := Nat.two_pow_pos _
  generalize Nat.pow 2 (a.units.log2 - 52) = grid at aligned positive ⊢
  rw [nearest_of_dvd positive aligned]
  exact Nat.div_mul_cancel aligned

theorem two_pow_le_roundUnits {num k : Nat} (h : Nat.pow 2 k ≤ num) :
    Nat.pow 2 k ≤ roundUnits num 1 := by
  have positive : num ≠ 0 := Nat.ne_of_gt (Nat.lt_of_lt_of_le (Nat.two_pow_pos k) h)
  simp only [roundUnits, Nat.div_one, Nat.one_mul]
  generalize places_eq : num.log2 - 52 = places
  have split : Nat.pow 2 num.log2 = Nat.pow 2 (num.log2 - places) * Nat.pow 2 places := by
    simp only [Nat.pow_eq, ← Nat.pow_add]
    congr 1
    omega
  calc
    Nat.pow 2 k ≤ Nat.pow 2 num.log2 :=
      Nat.pow_le_pow_right (by decide) ((Nat.le_log2 positive).2 h)
    _ = Nat.pow 2 (num.log2 - places) * Nat.pow 2 places := split
    _ ≤ num / Nat.pow 2 places * Nat.pow 2 places := by
      apply Nat.mul_le_mul_right
      apply (Nat.le_div_iff_mul_le (Nat.two_pow_pos places)).2
      exact split ▸ Nat.log2_self_le positive
    _ ≤ nearest num (Nat.pow 2 places) * Nat.pow 2 places :=
      Nat.mul_le_mul_right _ (div_le_nearest _ _)

theorem ofRatio?_eq_some_iff {num den : Nat} {a : Magnitude} :
    ofRatio? num den = some a ↔ roundUnits num den = a.units := by
  constructor
  · intro h
    unfold ofRatio? at h
    split at h
    · cases h
      rfl
    · cases h
  · intro h
    have range : roundUnits num den < unitLimit := h ▸ a.units_lt
    simp only [ofRatio?, range, ↓reduceDIte, Option.some.injEq]
    exact eq_of_units h

theorem ofRatio?_eq_none_iff {num den : Nat} :
    ofRatio? num den = none ↔ unitLimit ≤ roundUnits num den := by
  simp [ofRatio?]

theorem ofRatio?_mul_left {k : Nat} (hk : 0 < k) (num den : Nat) :
    ofRatio? (k * num) (k * den) = ofRatio? num den := by
  ext a
  simp only [ofRatio?_eq_some_iff, roundUnits_mul_left hk]

theorem ofRatio?_units (a : Magnitude) {k : Nat} (hk : 0 < k) :
    ofRatio? (a.units * k) k = some a :=
  ofRatio?_eq_some_iff.2 (roundUnits_units a hk)

end Magnitude

namespace Decimal
open Magnitude

theorem two_pow_le_ten_pow (n : Nat) : Nat.pow 2 (3 * n) ≤ Nat.pow 10 n := by
  simp only [Nat.pow_eq, Nat.pow_mul]
  exact Nat.pow_le_pow_left (by decide) n

theorem ofRatio?_of_isTiny {d : Decimal} (h : d.isTiny = true) :
    ofRatio? d.ratio.1 d.ratio.2 = some zero := by
  rw [ofRatio?_eq_some_iff]
  apply roundUnits_eq_zero
  simp only [isTiny, Bool.or_eq_true, beq_iff_eq, decide_eq_true_eq] at h
  simp only [ratio]
  rcases h with none | small
  · simp only [none, Nat.zero_mul, Nat.mul_zero]
    exact Nat.pow_pos (by decide)
  · have whole : d.exponent.toNat = 0 := by omega
    have digits : d.digits < Nat.pow 2 (d.digits.log2 + 1) := Nat.lt_log2_self
    have positive := unitsPerOne_pos
    calc
      2 * (d.digits * Nat.pow 10 d.exponent.toNat * unitsPerOne)
        = d.digits * (2 * unitsPerOne) := by
          simp only [whole, Nat.pow_eq, Nat.pow_zero, Nat.mul_one]
          rw [Nat.mul_left_comm]
      _ < Nat.pow 2 (d.digits.log2 + 1) * (2 * unitsPerOne) :=
          Nat.mul_lt_mul_of_pos_right digits (by omega)
      _ = Nat.pow 2 (d.digits.log2 + 2 + 1074) := by
          rw [← two_pow_mul_unitsPerOne, ← Nat.mul_assoc]
          rfl
      _ ≤ Nat.pow 2 (3 * (-d.exponent).toNat) := Nat.pow_le_pow_right (by decide) (by omega)
      _ ≤ Nat.pow 10 (-d.exponent).toNat := two_pow_le_ten_pow _

theorem ofRatio?_of_isHuge {d : Decimal} (h : d.isHuge = true) :
    ofRatio? d.ratio.1 d.ratio.2 = none := by
  rw [ofRatio?_eq_none_iff]
  simp only [isHuge, Bool.and_eq_true, bne_iff_ne, decide_eq_true_eq] at h
  have whole : (-d.exponent).toNat = 0 := by omega
  simp only [ratio, whole, Nat.pow_eq, Nat.pow_zero]
  refine Nat.le_trans (unitLimit_le_two_pow (n := 3 * d.exponent.toNat + 1074) (by omega)) ?_
  apply two_pow_le_roundUnits
  calc
    Nat.pow 2 (3 * d.exponent.toNat + 1074)
      = Nat.pow 2 (3 * d.exponent.toNat) * unitsPerOne := (two_pow_mul_unitsPerOne _).symm
    _ ≤ Nat.pow 10 d.exponent.toNat * unitsPerOne :=
      Nat.mul_le_mul_right _ (two_pow_le_ten_pow _)
    _ ≤ d.digits * Nat.pow 10 d.exponent.toNat * unitsPerOne :=
      Nat.mul_le_mul_right _ (Nat.le_mul_of_pos_left _ (Nat.pos_of_ne_zero h.1))

/-- The shortcuts for tiny and huge decimals do not change the rounding. -/
theorem toMagnitude?_eq (d : Decimal) : d.toMagnitude? = ofRatio? d.ratio.1 d.ratio.2 := by
  unfold toMagnitude?
  split
  next tiny => exact (ofRatio?_of_isTiny tiny).symm
  split
  next huge => exact (ofRatio?_of_isHuge huge).symm
  rfl

theorem toMagnitude?_congr {d e : Decimal} (h : d.ratio = e.ratio) :
    d.toMagnitude? = e.toMagnitude? := by
  rw [toMagnitude?_eq, toMagnitude?_eq, h]

theorem toMagnitude?_zero_behind (digits : Nat) (exponent : Int) :
    toMagnitude? ⟨10 * digits, exponent⟩ = toMagnitude? ⟨digits, exponent + 1⟩ := by
  by_cases h : 0 ≤ exponent
  · apply toMagnitude?_congr
    have up : (exponent + 1).toNat = exponent.toNat + 1 := by omega
    have left : (-exponent).toNat = 0 := by omega
    have right : (-(exponent + 1)).toNat = 0 := by omega
    simp only [ratio, up, left, right, Nat.pow_eq, Nat.pow_succ]
    congr 2
    rw [Nat.mul_comm 10, Nat.mul_assoc, Nat.mul_comm 10]
  · have down : (-exponent).toNat = (-(exponent + 1)).toNat + 1 := by omega
    have left : exponent.toNat = 0 := by omega
    have right : (exponent + 1).toNat = 0 := by omega
    simp only [toMagnitude?_eq, ratio, down, left, right, Nat.pow_eq, Nat.pow_zero, Nat.mul_one,
      Nat.pow_succ', Nat.mul_assoc]
    exact ofRatio?_mul_left (by decide) _ _

end Decimal
end PageExtract
