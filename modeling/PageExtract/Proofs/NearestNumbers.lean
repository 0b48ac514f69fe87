import Mathlib
import PageExtract.Proofs.NumberTexts

/-! A numeral is read as the number nearest to the decimal it writes, and of two equally near
numbers as the one whose last bit is zero; from the midpoint of the greatest number and `2 ^ 1024`
on it is an infinity. Distances are first compared as naturals, over the common denominator. -/
namespace PageExtract

namespace Magnitude
variable {num den units count places : ℕ}

theorem nearest_cases (num den : ℕ) :
    (nearest num den = num / den ∧ 2 * (num % den) ≤ den ∧
        (2 * (num % den) = den → Even (num / den))) ∨
      (nearest num den = num / den + 1 ∧ den ≤ 2 * (num % den) ∧
        (2 * (num % den) = den → ¬Even (num / den))) := by
  simp only [nearest, Nat.even_iff]
  split
  next below =>
    rw [Nat.compare_eq_lt] at below
    exact .inl ⟨rfl, by omega, by omega⟩
  next above =>
    rw [Nat.compare_eq_gt] at above
    exact .inr ⟨rfl, by omega, by omega⟩
  next half =>
    rw [Nat.compare_eq_eq] at half
    split
    next even => exact .inl ⟨rfl, by omega, fun _ => even⟩
    next odd => exact .inr ⟨rfl, by omega, fun _ => odd⟩

theorem nearest_spec (num : ℕ) {den : ℕ} (positive : 0 < den) (k : ℕ) :
    Nat.dist num (den * nearest num den) ≤ Nat.dist num (den * k) ∧
      (k ≠ nearest num den → Nat.dist num (den * k) = Nat.dist num (den * nearest num den) →
        Even (nearest num den)) := by
  have whole := Nat.div_add_mod num den
  have rest := Nat.mod_lt num positive
  have next : den * (num / den + 1) = den * (num / den) + den := Nat.mul_succ _ _
  have below : k < num / den → den * k + den ≤ den * (num / den) := fun less => by
    rw [← Nat.mul_succ]
    exact Nat.mul_le_mul_left den less
  have above : num / den + 1 < k → den * (num / den) + den + den ≤ den * k := fun more => by
    rw [← next, ← Nat.mul_succ]
    exact Nat.mul_le_mul_left den more
  have place : k < num / den ∨ k = num / den ∨ k = num / den + 1 ∨ num / den + 1 < k := by omega
  rcases nearest_cases num den with ⟨down, half, even⟩ | ⟨up, half, odd⟩
  · rw [down]
    unfold Nat.dist
    rcases place with less | rfl | rfl | more
    · have := below less
      exact ⟨by omega, fun _ tie => even (by omega)⟩
    · exact ⟨le_rfl, fun other => absurd rfl other⟩
    · rw [next]
      exact ⟨by omega, fun _ tie => even (by omega)⟩
    · have := above more
      exact ⟨by omega, fun _ tie => even (by omega)⟩
  · rw [up, next]
    unfold Nat.dist
    rcases place with less | rfl | rfl | more
    · have := below less
      exact ⟨by omega, fun _ tie => absurd tie (by omega)⟩
    · exact ⟨by omega, fun _ tie => Nat.even_add_one.2 (odd (by omega))⟩
    · exact ⟨by omega, fun other => absurd rfl other⟩
    · have := above more
      exact ⟨by omega, fun _ tie => Nat.even_add_one.2 (odd (by omega))⟩

/-- At most 53 significant bits, at any height. -/
def Aligned (units : ℕ) : Prop := Nat.pow 2 (units.log2 - 52) ∣ units

def significand (units : ℕ) : ℕ := units / Nat.pow 2 (units.log2 - 52)

theorem significand_lt (units : ℕ) : significand units < Nat.pow 2 53 := by
  have bound := div_lt_of_places units 1
  rwa [Nat.div_one, Nat.one_mul] at bound

theorem significand_mul_cancel (aligned : Aligned units) :
    significand units * Nat.pow 2 (units.log2 - 52) = units :=
  Nat.div_mul_cancel aligned

theorem le_significand (units : ℕ) : units.log2 - 52 = 0 ∨ Nat.pow 2 52 ≤ significand units := by
  by_cases fine : units.log2 - 52 = 0
  · exact .inl fine
  · have notZero : units ≠ 0 := by
      rintro rfl
      simp at fine
    refine .inr ((Nat.le_div_iff_mul_le (Nat.two_pow_pos _)).2 ?_)
    have height : 52 + (units.log2 - 52) = units.log2 := by omega
    calc
      Nat.pow 2 52 * Nat.pow 2 (units.log2 - 52) = Nat.pow 2 units.log2 := by
        simp only [Nat.pow_eq, ← Nat.pow_add, height]
      _ ≤ units := Nat.log2_self_le notZero

theorem log2_mul (small : count < Nat.pow 2 53) (normal : places = 0 ∨ Nat.pow 2 52 ≤ count) :
    (count * Nat.pow 2 places).log2 - 52 = places := by
  by_cases none : count = 0
  · subst none
    rcases normal with rfl | large
    · simp
    · exact absurd large (by simp)
  have notZero : count * Nat.pow 2 places ≠ 0 :=
    Nat.mul_ne_zero none (Nat.two_pow_pos places).ne'
  have upper : count * Nat.pow 2 places < Nat.pow 2 (53 + places) := by
    simp only [Nat.pow_eq, Nat.pow_add] at *
    exact Nat.mul_lt_mul_of_pos_right small (Nat.two_pow_pos places)
  have below := (Nat.log2_lt notZero).2 upper
  rcases normal with rfl | large
  · omega
  · have lower : Nat.pow 2 (52 + places) ≤ count * Nat.pow 2 places := by
      simp only [Nat.pow_eq, Nat.pow_add] at *
      exact Nat.mul_le_mul_right _ large
    have above := (Nat.le_log2 notZero).2 lower
    omega

theorem significand_mul (small : count < Nat.pow 2 53)
    (normal : places = 0 ∨ Nat.pow 2 52 ≤ count) :
    significand (count * Nat.pow 2 places) = count := by
  rw [significand, log2_mul small normal]
  exact Nat.mul_div_cancel _ (Nat.two_pow_pos places)

theorem even_significand (bound : count ≤ Nat.pow 2 53)
    (normal : places = 0 ∨ Nat.pow 2 52 ≤ count) (even : Even count) :
    Even (significand (count * Nat.pow 2 places)) := by
  rcases bound.lt_or_eq with small | rfl
  · rwa [significand_mul small normal]
  -- The carry moves the only bit one place up.
  · have carried : Nat.pow 2 53 * Nat.pow 2 places = Nat.pow 2 52 * Nat.pow 2 (places + 1) := by
      simp only [Nat.pow_eq, ← Nat.pow_add]
      congr 1
      omega
    rw [carried, significand_mul (by decide) (.inr le_rfl)]
    exact ⟨Nat.pow 2 51, by decide⟩

theorem dvd_or_lt (aligned : Aligned units) (places : ℕ) :
    Nat.pow 2 places ∣ units ∨ 0 < places ∧ units < Nat.pow 2 52 * Nat.pow 2 places := by
  by_cases coarse : places ≤ units.log2 - 52
  · exact .inl ((Nat.pow_dvd_pow 2 coarse).trans aligned)
  · refine .inr ⟨by omega, ?_⟩
    calc
      units < Nat.pow 2 (units.log2 + 1) := Nat.lt_log2_self
      _ ≤ Nat.pow 2 (52 + places) := Nat.pow_le_pow_right (by decide) (by omega)
      _ = Nat.pow 2 52 * Nat.pow 2 places := Nat.pow_add 2 52 places

theorem roundUnits_spec (num : ℕ) {den : ℕ} (positive : 0 < den) (aligned : Aligned units) :
    Nat.dist num (den * roundUnits num den) ≤ Nat.dist num (den * units) ∧
      (units ≠ roundUnits num den →
        Nat.dist num (den * units) = Nat.dist num (den * roundUnits num den) →
        Even (significand (roundUnits num den))) := by
  have normal : (num / den).log2 - 52 = 0 ∨
      Nat.pow 2 52 ≤ num / (den * Nat.pow 2 ((num / den).log2 - 52)) := by
    rw [← Nat.div_div_eq_div_mul]
    exact le_significand (num / den)
  have small := div_lt_of_places num den
  simp only [roundUnits]
  generalize (num / den).log2 - 52 = places at normal small ⊢
  have step : 0 < den * Nat.pow 2 places := Nat.mul_pos positive (Nat.two_pow_pos places)
  have near := nearest_spec num step
  have upper := nearest_le num (den * Nat.pow 2 places)
  have lower := div_le_nearest num (den * Nat.pow 2 places)
  have rounded (k : ℕ) : den * (k * Nat.pow 2 places) = den * Nat.pow 2 places * k := by ring
  rcases dvd_or_lt aligned places with ⟨k, rfl⟩ | ⟨coarse, low⟩
  · rw [Nat.mul_comm (Nat.pow 2 places) k, rounded, rounded]
    refine ⟨(near k).1, fun other tie => ?_⟩
    have even := (near k).2 (fun same => other (by rw [same])) tie
    exact even_significand (by omega) (normal.imp_right (by omega)) even
  -- Off the grid, the start of the binade lies between the count and the ratio.
  · have start : den * Nat.pow 2 places * Nat.pow 2 52 ≤ num := by
      rw [Nat.mul_comm]
      exact (Nat.le_div_iff_mul_le step).1 (normal.resolve_left (by omega))
    have less : den * units < den * Nat.pow 2 places * Nat.pow 2 52 := by
      rw [Nat.mul_assoc, Nat.mul_comm (Nat.pow 2 places)]
      exact Nat.mul_lt_mul_of_pos_left low positive
    have close := (near (Nat.pow 2 52)).1
    rw [rounded]
    unfold Nat.dist at close ⊢
    exact ⟨by omega, fun _ tie => absurd tie (by omega)⟩

theorem aligned_mul (places : ℕ) (bound : count ≤ Nat.pow 2 53) :
    Aligned (count * Nat.pow 2 places) :=
  aligned_of_le bound

theorem le_under_of_lt (places : ℕ) (aligned : Aligned units)
    (less : units < Nat.pow 2 53 * Nat.pow 2 places) :
    units ≤ (Nat.pow 2 53 - 1) * Nat.pow 2 places := by
  rcases dvd_or_lt aligned places with ⟨k, multiple⟩ | ⟨-, low⟩
  · rw [multiple, Nat.mul_comm] at less ⊢
    exact Nat.mul_le_mul_right _ (Nat.le_pred_of_lt (Nat.lt_of_mul_lt_mul_right less))
  · exact low.le.trans (Nat.mul_le_mul_right _ (by decide))

theorem under_odd (places : ℕ) :
    ¬Even (significand ((Nat.pow 2 53 - 1) * Nat.pow 2 places)) := by
  rw [significand_mul (by decide) (.inr (by decide))]
  decide

/-- Rounding passes a power of two from the midpoint of it and its lower neighbour on. -/
theorem le_roundUnits_iff (positive : 0 < den) :
    Nat.pow 2 53 * Nat.pow 2 places ≤ roundUnits num den ↔
      2 * (den * (Nat.pow 2 53 * Nat.pow 2 places)) ≤ 2 * num + den * Nat.pow 2 places := by
  have under : (Nat.pow 2 53 - 1) * Nat.pow 2 places + Nat.pow 2 places =
      Nat.pow 2 53 * Nat.pow 2 places := by
    rw [← Nat.succ_mul]
  have toLimit := roundUnits_spec num positive (aligned_mul places (le_refl (Nat.pow 2 53)))
  have toUnder := roundUnits_spec num positive (aligned_mul places (Nat.sub_le (Nat.pow 2 53) 1))
  have odd := under_odd places
  have gap := le_under_of_lt places (aligned_roundUnits num den)
  have step : 0 < den * Nat.pow 2 places := Nat.mul_pos positive (Nat.two_pow_pos places)
  generalize (Nat.pow 2 53 - 1) * Nat.pow 2 places = before at *
  generalize Nat.pow 2 53 * Nat.pow 2 places = limit at *
  generalize Nat.pow 2 places = grid at *
  generalize roundUnits num den = units at *
  have scaled : den * before + den * grid = den * limit := by rw [← Nat.mul_add, under]
  constructor
  · intro above
    have order : den * limit ≤ den * units := Nat.mul_le_mul_left den above
    have close := toUnder.1
    unfold Nat.dist at close
    omega
  · intro reached
    by_contra below
    have order : den * units ≤ den * before := Nat.mul_le_mul_left den (gap (by omega))
    obtain ⟨close, tie⟩ := toLimit
    have same : den * units = den * before := by
      unfold Nat.dist at close
      omega
    have last : units = before := Nat.eq_of_mul_eq_mul_left positive same
    refine odd (last ▸ tie (by omega) ?_)
    unfold Nat.dist at close ⊢
    omega

theorem unitLimit_eq : unitLimit = Nat.pow 2 53 * Nat.pow 2 2045 := by
  have height : 2098 = 53 + 2045 := rfl
  unfold unitLimit
  generalize 2098 = total at *
  generalize 2045 = places at *
  rw [height]
  exact Nat.pow_add 2 53 places

theorem ofRatio?_eq_none_iff_le (positive : 0 < den)
    (limit : unitLimit = Nat.pow 2 53 * Nat.pow 2 places) :
    ofRatio? num den = none ↔ 2 * (den * unitLimit) ≤ 2 * num + den * Nat.pow 2 places := by
  rw [ofRatio?_eq_none_iff, limit]
  exact le_roundUnits_iff positive

/-- No magnitude is nearer, and if another one is as near, the last bit is zero. -/
structure IsNearest (a : Magnitude) (x : ℚ) : Prop where
  near : ∀ b : Magnitude, |x - a.value| ≤ |x - b.value|
  even : ∀ b : Magnitude, b ≠ a → |x - b.value| = |x - a.value| → Even (significand a.units)

theorem abs_sub_value {x : ℚ} (positive : 0 < den) (ratio : x * unitsPerOne = num / den)
    (a : Magnitude) :
    |x - a.value| * (unitsPerOne * den) = (Nat.dist num (den * a.units) : ℕ) := by
  have den_pos : (0 : ℚ) < den := by exact_mod_cast positive
  have one_pos : (0 : ℚ) < unitsPerOne := by exact_mod_cast unitsPerOne_pos
  rw [← abs_of_pos (mul_pos one_pos den_pos), ← abs_mul, sub_mul, ← mul_assoc, ← mul_assoc, ratio,
    a.value_mul, div_mul_cancel₀ _ den_pos.ne']
  rcases Nat.le_total num (den * a.units) with le | le
  · rw [Nat.dist_eq_sub_of_le le, Nat.cast_sub le, abs_sub_comm, abs_of_nonneg] <;> push_cast
    · ring
    · rw [sub_nonneg]
      exact_mod_cast mul_comm den a.units ▸ le
  · rw [Nat.dist_eq_sub_of_le_right le, Nat.cast_sub le, abs_of_nonneg] <;> push_cast
    · ring
    · rw [sub_nonneg]
      exact_mod_cast mul_comm den a.units ▸ le

theorem isNearest_of_ofRatio? {x : ℚ} {a : Magnitude} (positive : 0 < den)
    (ratio : x * unitsPerOne = num / den) (h : ofRatio? num den = some a) : a.IsNearest x := by
  rw [ofRatio?_eq_some_iff] at h
  have scale : (0 : ℚ) < unitsPerOne * den := by exact_mod_cast Nat.mul_pos unitsPerOne_pos positive
  refine ⟨fun b => ?_, fun b other tie => ?_⟩
  · rw [← mul_le_mul_iff_of_pos_right scale, abs_sub_value positive ratio,
      abs_sub_value positive ratio, ← h]
    exact_mod_cast (roundUnits_spec num positive b.aligned).1
  · rw [← mul_left_inj' scale.ne', abs_sub_value positive ratio, abs_sub_value positive ratio,
      Nat.cast_inj, ← h] at tie
    rw [← h]
    exact (roundUnits_spec num positive b.aligned).2 (fun same => other (eq_of_units (same.trans h))) tie

theorem exists_next {a b : Magnitude} (less : a.units < b.units) :
    ∃ c : Magnitude, c.units = (significand a.units + 1) * Nat.pow 2 (a.units.log2 - 52) ∧
      a.units < c.units ∧ c.units ≤ b.units := by
  have height : a.units.log2 - 52 ≤ b.units.log2 - 52 :=
    Nat.sub_le_sub_right (log2_le_log2 less.le) 52
  obtain ⟨k, multiple⟩ := (Nat.pow_dvd_pow 2 height).trans b.aligned
  have bits := significand_lt a.units
  have units := significand_mul_cancel a.aligned
  have aligned : Aligned ((significand a.units + 1) * Nat.pow 2 (a.units.log2 - 52)) :=
    aligned_mul _ bits
  have step : 0 < Nat.pow 2 (a.units.log2 - 52) := Nat.two_pow_pos _
  generalize significand a.units = count at *
  have above : (count + 1) * Nat.pow 2 (a.units.log2 - 52) ≤ b.units := by
    rw [multiple, Nat.mul_comm (2 ^ _)]
    apply Nat.mul_le_mul_right
    apply Nat.lt_of_mul_lt_mul_right (a := Nat.pow 2 (a.units.log2 - 52))
    calc
      count * Nat.pow 2 (a.units.log2 - 52) = a.units := units
      _ < b.units := less
      _ = k * Nat.pow 2 (a.units.log2 - 52) := multiple.trans (Nat.mul_comm _ _)
  refine ⟨⟨_, above.trans_lt b.units_lt, aligned⟩, rfl, ?_, above⟩
  change a.units < (count + 1) * Nat.pow 2 (a.units.log2 - 52)
  rw [Nat.succ_mul, units]
  omega

theorem value_lt {a b : Magnitude} (less : a.units < b.units) : a.value < b.value :=
  div_lt_div_of_pos_right (by exact_mod_cast less) (by exact_mod_cast unitsPerOne_pos)

theorem IsNearest.units_le {x : ℚ} {a b : Magnitude} (ha : a.IsNearest x) (hb : b.IsNearest x) :
    b.units ≤ a.units := by
  by_contra greater
  have less : a.units < b.units := not_le.1 greater
  have tie : |x - b.value| = |x - a.value| := (hb.near a).antisymm (ha.near b)
  have evenA := ha.even b (fun same => less.ne (by rw [same])) tie
  have evenB := hb.even a (fun same => less.ne (by rw [same])) tie.symm
  obtain ⟨c, units, above, below⟩ := exists_next less
  rcases below.lt_or_eq with between | same
  · have middle : 2 * x = a.value + b.value := by
      rcases abs_eq_abs.1 tie with equal | opposite
      · linarith [value_lt less]
      · linarith
    have first := value_lt above
    have second := value_lt between
    have near := hb.near c
    have far : x - b.value < 0 := by linarith
    rw [abs_of_neg far, neg_sub, le_abs'] at near
    rcases near with near | near <;> linarith
  · have odd : ¬Even (significand a.units + 1) := by rwa [Nat.even_add_one, not_not]
    have small : significand a.units + 1 < Nat.pow 2 53 := by
      refine lt_of_le_of_ne (significand_lt a.units) fun full => odd ?_
      rw [full]
      exact ⟨Nat.pow 2 52, by decide⟩
    rw [← same, units, significand_mul small] at evenB
    · exact odd evenB
    · exact (le_significand a.units).imp_right (by omega)

theorem IsNearest.unique {x : ℚ} {a b : Magnitude} (ha : a.IsNearest x) (hb : b.IsNearest x) :
    a = b :=
  eq_of_units (le_antisymm (hb.units_le ha) (ha.units_le hb))

end Magnitude

namespace Decimal
open Magnitude

def value (d : Decimal) : ℚ := d.digits * 10 ^ d.exponent

theorem ratio_pos (d : Decimal) : 0 < d.ratio.2 := Nat.pow_pos (by decide)

theorem value_mul_unitsPerOne (d : Decimal) :
    d.value * unitsPerOne = (d.ratio.1 : ℕ) / (d.ratio.2 : ℕ) := by
  rw [eq_div_iff (by exact_mod_cast d.ratio_pos.ne')]
  simp only [value, ratio, Nat.pow_eq, Nat.cast_mul, Nat.cast_pow, Nat.cast_ofNat]
  have powers : (10 : ℚ) ^ d.exponent * 10 ^ (-d.exponent).toNat = 10 ^ d.exponent.toNat := by
    rw [← zpow_natCast, ← zpow_natCast, ← zpow_add₀ (by norm_num)]
    congr 1
    omega
  rw [← powers]
  ring

/-- The midpoint of the greatest magnitude and the next power of two. -/
def overflow : ℚ := 2 ^ 1024 - 2 ^ 970

theorem unitLimit_eq_ones : unitLimit = Nat.pow 2 1024 * unitsPerOne := by
  have height : 2098 = 1024 + 1074 := rfl
  unfold unitLimit unitsPerOne
  generalize 2098 = total at *
  generalize 1024 = places at *
  generalize 1074 = fraction at *
  rw [height]
  exact Nat.pow_add 2 places fraction

theorem grid_eq_ones : Nat.pow 2 2045 = 2 * Nat.pow 2 970 * unitsPerOne := by
  have height : 2045 = 970 + 1 + 1074 := rfl
  unfold unitsPerOne
  generalize 2045 = total at *
  generalize 970 = places at *
  generalize 1074 = fraction at *
  rw [height, Nat.mul_comm 2]
  exact Nat.pow_add 2 (places + 1) fraction

theorem overflow_mul (den : ℕ) :
    overflow * (2 * (unitsPerOne * den)) + den * (Nat.pow 2 2045 : ℕ) = 2 * (den * unitLimit) := by
  rw [unitLimit_eq_ones, grid_eq_ones, overflow]
  simp only [Nat.pow_eq, Nat.cast_mul, Nat.cast_pow, Nat.cast_ofNat]
  generalize (2 : ℚ) ^ 1024 = limit
  generalize (2 : ℚ) ^ 970 = half
  generalize (unitsPerOne : ℚ) = ones
  ring

theorem toMagnitude?_eq_none_iff (d : Decimal) :
    d.toMagnitude? = none ↔ overflow ≤ d.value := by
  have scale : (0 : ℚ) < 2 * (unitsPerOne * d.ratio.2) := by
    exact_mod_cast Nat.mul_pos two_pos (Nat.mul_pos unitsPerOne_pos d.ratio_pos)
  have ratio : d.value * (2 * (unitsPerOne * d.ratio.2)) = 2 * d.ratio.1 := by
    rw [mul_left_comm, ← mul_assoc d.value, d.value_mul_unitsPerOne,
      div_mul_cancel₀ _ (by exact_mod_cast d.ratio_pos.ne')]
  have midpoint := overflow_mul d.ratio.2
  rw [toMagnitude?_eq, ofRatio?_eq_none_iff_le d.ratio_pos unitLimit_eq,
    ← mul_le_mul_iff_of_pos_right scale, ratio, ← @Nat.cast_le ℚ]
  simp only [Nat.cast_add, Nat.cast_mul, Nat.cast_ofNat]
  rw [← midpoint, add_le_add_iff_right]

theorem toMagnitude?_eq_some_iff {d : Decimal} {a : Magnitude} :
    d.toMagnitude? = some a ↔ a.IsNearest d.value ∧ d.value < overflow := by
  have nearest {b : Magnitude} (h : d.toMagnitude? = some b) : b.IsNearest d.value :=
    isNearest_of_ofRatio? d.ratio_pos d.value_mul_unitsPerOne (d.toMagnitude?_eq ▸ h)
  rw [← not_le, ← toMagnitude?_eq_none_iff]
  constructor
  · intro read
    exact ⟨nearest read, by simp [read]⟩
  · rintro ⟨near, inside⟩
    obtain ⟨b, read⟩ := Option.ne_none_iff_exists'.1 inside
    rw [read, (nearest read).unique near]

end Decimal

namespace Number

inductive Nearest (negative : Bool) (x : ℚ) : Number → Prop
  | finite {a : Magnitude} (near : a.IsNearest x) (inside : x < Decimal.overflow) :
      Nearest negative x (finite negative a)
  | infinite (outside : Decimal.overflow ≤ x) : Nearest negative x (infinite negative)

end Number

/-- A decimal is read as the number nearest to it, and as no other. -/
theorem Decimal.toNumber_eq_iff {negative : Bool} {d : Decimal} {n : Number} :
    d.toNumber negative = n ↔ n.Nearest negative d.value := by
  rw [toNumber]
  constructor
  · rintro rfl
    cases read : d.toMagnitude? with
    | none => exact .infinite ((toMagnitude?_eq_none_iff d).1 read)
    | some a => exact .finite (toMagnitude?_eq_some_iff.1 read).1 (toMagnitude?_eq_some_iff.1 read).2
  · rintro (⟨near, inside⟩ | outside)
    · rw [toMagnitude?_eq_some_iff.2 ⟨near, inside⟩]
    · rw [(toMagnitude?_eq_none_iff d).2 outside]

namespace Numeral

theorem naturalOf_eq_ofDigits (s : List Char) :
    naturalOf s = Nat.ofDigits 10 (s.reverse.map digitValue) := by
  induction s using List.reverseRecOn with
  | nil => rfl
  | append_singleton s c ih =>
    have last : naturalOf (s ++ [c]) = 10 * naturalOf s + digitValue c := by simp [naturalOf]
    rw [last, ih, List.reverse_append, List.reverse_singleton, List.singleton_append, List.map_cons,
      Nat.ofDigits_cons]
    ring

theorem naturalOf_append (s t : List Char) :
    naturalOf (s ++ t) = naturalOf s * 10 ^ t.length + naturalOf t := by
  simp only [naturalOf_eq_ofDigits, List.reverse_append, List.map_append, Nat.ofDigits_append,
    List.length_map, List.length_reverse]
  ring

/-- The decimal that is written: the whole part and the fraction, moved by the exponent. -/
def value (n : Numeral) : ℚ :=
  (naturalOf n.whole + naturalOf n.fraction / 10 ^ n.fraction.length) * 10 ^ n.exponent

theorem value_toDecimal (n : Numeral) : n.toDecimal.value = n.value := by
  rw [toDecimal, Decimal.value, naturalOf_append, value, zpow_sub₀ (by norm_num), zpow_natCast]
  push_cast
  field_simp

theorem toNumber_eq_iff {n : Numeral} {x : Number} : n.toNumber = x ↔ x.Nearest n.negative n.value := by
  rw [toNumber, Decimal.toNumber_eq_iff, value_toDecimal]

end Numeral

namespace Grammar

/-- A number among the arguments is the one nearest to the decimal that the text writes. -/
theorem ArgumentText.number_iff {x : Number} {s : List Char} :
    ArgumentText (.number x) s ↔
      ∃ n : Numeral, NumberText n s ∧ x.Nearest n.negative n.value := by
  constructor
  · intro argument
    cases argument with
    | @number n _ _ text value =>
      have read : n.toNumber = x := Option.some.inj ((Number.read?_text text).symm.trans value)
      exact ⟨n, text, Numeral.toNumber_eq_iff.1 read⟩
    | keyword known => simp [keywords] at known
  · rintro ⟨n, text, nearest⟩
    have read : n.toNumber = x := Numeral.toNumber_eq_iff.2 nearest
    exact .number text (read ▸ Number.read?_text text)

end Grammar
end PageExtract
