import PageExtract.Proofs.Rounding

/-! Truncation, order, multiplication and conversion to machine words, as binary numbers of double
width have them. Natural numbers up to `2 ^ 53` pass through unrounded, and a product of whole
numbers is above a power of two exactly when the rounded product is. -/
namespace PageExtract

namespace Magnitude

theorem log2_le_log2 {m n : Nat} (h : m ≤ n) : m.log2 ≤ n.log2 := by
  by_cases zero : m = 0
  · rw [zero, Nat.log2_zero]
    exact Nat.zero_le _
  · have positive : n ≠ 0 := by omega
    exact (Nat.le_log2 positive).2 (Nat.le_trans (Nat.log2_self_le zero) h)

theorem exists_two_pow_unitsPerOne : ∃ fraction, unitsPerOne = Nat.pow 2 fraction := by
  unfold unitsPerOne
  exact ⟨_, rfl⟩

theorem aligned_floor (a : Magnitude) :
    Nat.pow 2 ((a.floor * unitsPerOne).log2 - 52) ∣ a.floor * unitsPerOne := by
  have small : a.floor * unitsPerOne ≤ a.units := Nat.div_mul_le_self _ _
  have fewer : (a.floor * unitsPerOne).log2 - 52 ≤ a.units.log2 - 52 :=
    Nat.sub_le_sub_right (log2_le_log2 small) 52
  generalize (a.floor * unitsPerOne).log2 - 52 = places at fewer ⊢
  obtain ⟨fraction, ones⟩ := exists_two_pow_unitsPerOne
  by_cases coarse : places ≤ fraction
  · refine Nat.dvd_trans ?_ (Nat.dvd_mul_left unitsPerOne a.floor)
    rw [ones]
    exact Nat.pow_dvd_pow 2 coarse
  -- Units that are so coarse have no fraction.
  · have divides : unitsPerOne ∣ a.units := by
      rw [ones]
      exact Nat.dvd_trans (Nat.pow_dvd_pow 2 (by omega)) a.aligned
    rw [floor, Nat.div_mul_cancel divides]
    exact Nat.dvd_trans (Nat.pow_dvd_pow 2 fewer) a.aligned

def whole (a : Magnitude) : Magnitude where
  units := a.floor * unitsPerOne
  units_lt := Nat.lt_of_le_of_lt (Nat.div_mul_le_self _ _) a.units_lt
  aligned := a.aligned_floor

theorem floor_whole (a : Magnitude) : a.whole.floor = a.floor :=
  Nat.mul_div_cancel _ unitsPerOne_pos

theorem two_pow_mul_unitsPerOne_lt {places : Nat} (small : places < 1024) :
    Nat.pow 2 places * unitsPerOne < unitLimit := by
  simp only [two_pow_mul_unitsPerOne]
  unfold unitLimit
  exact Nat.pow_lt_pow_right (by decide) (by omega)

theorem two_pow_mul_unitsPerOne_le_roundUnits {places units : Nat}
    (h : Nat.pow 2 places * unitsPerOne ≤ units) :
    Nat.pow 2 places * unitsPerOne ≤ roundUnits units 1 := by
  rw [two_pow_mul_unitsPerOne] at h ⊢
  exact two_pow_le_roundUnits h

def natural (n : Nat) (h : n ≤ Nat.pow 2 53) : Magnitude where
  units := n * unitsPerOne
  units_lt := Nat.lt_of_le_of_lt (Nat.mul_le_mul_right unitsPerOne h)
    (two_pow_mul_unitsPerOne_lt (by decide))
  aligned := by
    obtain ⟨fraction, ones⟩ := exists_two_pow_unitsPerOne
    rw [ones]
    exact aligned_of_le h

theorem units_natural (n : Nat) (h : n ≤ Nat.pow 2 53) : (natural n h).units = n * unitsPerOne := by
  rw [natural]

theorem floor_natural (n : Nat) (h : n ≤ Nat.pow 2 53) : (natural n h).floor = n := by
  rw [floor, units_natural, Nat.mul_div_cancel _ unitsPerOne_pos]

theorem units_whole (a : Magnitude) : a.whole.units = a.floor * unitsPerOne := by
  rw [whole]

theorem whole_zero : zero.whole = zero := by
  apply eq_of_units
  rw [units_whole, floor_zero, Nat.zero_mul, zero]

end Magnitude

namespace Number
open Magnitude

def truncated : Number → Number
  | finite negative a => finite negative a.whole
  | n => n

def ofRatio (negative : Bool) (num den : Nat) : Number :=
  ((ofRatio? num den).map (finite negative)).getD (infinite negative)

def product : Number → Number → Number
  | nan, _ => nan
  | _, nan => nan
  | infinite s, infinite t => infinite (s ^^ t)
  | infinite s, finite t a => if a.units = 0 then nan else infinite (s ^^ t)
  | finite s a, infinite t => if a.units = 0 then nan else infinite (s ^^ t)
  | finite s a, finite t b => ofRatio (s ^^ t) (a.units * b.units) unitsPerOne

def signedUnits (negative : Bool) (a : Magnitude) : Int :=
  if negative then -(a.units : Int) else a.units

def compare? : Number → Number → Option Ordering
  | nan, _ => none
  | _, nan => none
  | infinite s, infinite t => some (if s = t then .eq else if s then .lt else .gt)
  | infinite s, finite _ _ => some (if s then .lt else .gt)
  | finite _ _, infinite t => some (if t then .gt else .lt)
  | finite s a, finite t b => some (compare (signedUnits s a) (signedUnits t b))

def exceeds (x y : Number) : Bool := compare? x y == some .gt

def atMost (x y : Number) : Bool := compare? x y == some .lt || compare? x y == some .eq

def isInfinite : Number → Bool
  | infinite _ => true
  | _ => false

def wordLimit : Nat := Nat.pow 2 64

/-- The conversion to a machine word: the whole part, or the end of the range that it is beyond. -/
def toWord : Number → Nat
  | nan => 0
  | infinite negative => if negative then 0 else wordLimit - 1
  | finite negative a => if negative then 0 else min a.floor (wordLimit - 1)

theorem toExtInt_zero : zero.toExtInt = .int 0 := by
  rw [zero, toExtInt, floor_zero]
  rfl

theorem ofRatio_of_some {negative : Bool} {num den : Nat} {a : Magnitude}
    (h : ofRatio? num den = some a) : ofRatio negative num den = finite negative a := by
  rw [ofRatio, h, Option.map_some, Option.getD_some]

theorem ofRatio?_natural {n : Nat} (h : n ≤ Nat.pow 2 53) :
    ofRatio? (n * unitsPerOne) 1 = some (natural n h) := by
  rw [ofRatio?_eq_some_iff, units_natural]
  have units := roundUnits_units (natural n h) (k := 1) (by decide)
  rwa [Nat.mul_one, units_natural] at units

theorem ofRatio_natural (negative : Bool) {n : Nat} (h : n ≤ Nat.pow 2 53) :
    ofRatio negative (n * unitsPerOne) 1 = finite negative (natural n h) := by
  have units := ofRatio?_natural h
  rw [ofRatio, units, Option.map_some, Option.getD_some]

theorem ofNat_eq_ofRatio : ofNat = fun n => ofRatio false (n * unitsPerOne) 1 := by
  delta ofNat
  -- The rounding is kept closed: unfolded, it would be carried out on an unknown count of units.
  funext n
  rw [ofRatio]
  generalize ofRatio? (n * unitsPerOne) 1 = found
  cases found with
  | none => rfl
  | some a => rfl

theorem ofNat_natural {n : Nat} (h : n ≤ Nat.pow 2 53) : ofNat n = finite false (natural n h) := by
  have rounded := congrFun ofNat_eq_ofRatio n
  rw [rounded, ofRatio_natural false h]

theorem product_whole {a b : Magnitude} {k : Nat} (whole : a.units = k * unitsPerOne)
    (s t : Bool) : product (finite s a) (finite t b) = ofRatio (s ^^ t) (k * b.units) 1 := by
  have scaled : a.units * b.units = unitsPerOne * (k * b.units) := by
    rw [whole, Nat.mul_comm k, Nat.mul_assoc]
  have same := ofRatio?_mul_left unitsPerOne_pos (k * b.units) 1
  rw [Nat.mul_one] at same
  rw [product, scaled, ofRatio, ofRatio, same]

theorem product_comm (x y : Number) : product x y = product y x := by
  cases x <;> cases y <;> simp only [product, Bool.xor_comm, Nat.mul_comm]

theorem exceeds_finite (s t : Bool) (a b : Magnitude) :
    exceeds (finite s a) (finite t b) = decide (signedUnits t b < signedUnits s a) := by
  rw [exceeds, compare?]
  generalize signedUnits s a = x
  generalize signedUnits t b = y
  rcases Int.lt_trichotomy x y with below | same | above
  · simp [compare, compareOfLessAndEq, below, Int.le_of_lt below]
  · simp [compare, compareOfLessAndEq, same]
  · simp [compare, compareOfLessAndEq, above, Int.not_lt.2 (Int.le_of_lt above), Int.ne_of_gt above]

theorem atMost_finite (s t : Bool) (a b : Magnitude) :
    atMost (finite s a) (finite t b) = decide (signedUnits s a ≤ signedUnits t b) := by
  rw [atMost, compare?]
  generalize signedUnits s a = x
  generalize signedUnits t b = y
  rcases Int.lt_trichotomy x y with below | same | above
  · simp [compare, compareOfLessAndEq, below, Int.le_of_lt below]
  · simp [compare, compareOfLessAndEq, same]
  · simp [compare, compareOfLessAndEq, above, Int.not_lt.2 (Int.le_of_lt above), Int.ne_of_gt above]

theorem signedUnits_natural {n : Nat} (h : n ≤ Nat.pow 2 53) :
    signedUnits false (natural n h) = n * (unitsPerOne : Int) := by
  rw [signedUnits, if_neg Bool.false_ne_true, units_natural, Int.natCast_mul]

theorem signedUnits_whole (negative : Bool) (a : Magnitude) :
    signedUnits negative a.whole =
      (if negative then -(a.floor : Int) else a.floor) * (unitsPerOne : Int) := by
  rw [signedUnits, units_whole, Int.natCast_mul]
  split
  · rw [Int.neg_mul]
  · rfl

theorem mul_unitsPerOne_lt_iff {x y : Int} : x * (unitsPerOne : Int) < y * unitsPerOne ↔ x < y :=
  Int.mul_lt_mul_right (Int.natCast_pos.2 unitsPerOne_pos)

theorem mul_unitsPerOne_le_iff {x y : Int} : x * (unitsPerOne : Int) ≤ y * unitsPerOne ↔ x ≤ y :=
  Int.mul_le_mul_right (Int.natCast_pos.2 unitsPerOne_pos)

theorem atMost_ofNat (negative : Bool) (a : Magnitude) {n : Nat} (h : n ≤ Nat.pow 2 53) :
    atMost (finite negative a.whole) (ofNat n) =
      decide ((if negative then -(a.floor : Int) else a.floor) ≤ n) := by
  rw [ofNat_natural h, atMost_finite, signedUnits_natural, signedUnits_whole]
  simp only [mul_unitsPerOne_le_iff]

theorem zero_exceeds (negative : Bool) (a : Magnitude) :
    exceeds zero (finite negative a.whole) =
      decide ((if negative then -(a.floor : Int) else a.floor) < 0) := by
  have none : signedUnits false Magnitude.zero = 0 * (unitsPerOne : Int) := by
    rw [signedUnits, if_neg Bool.false_ne_true, Magnitude.zero, Int.zero_mul]
    rfl
  rw [zero, exceeds_finite, none, signedUnits_whole]
  simp only [mul_unitsPerOne_lt_iff]

theorem toWord_whole {a : Magnitude} (fits : a.floor < wordLimit) :
    toWord (finite false a.whole) = a.floor := by
  rw [toWord, if_neg Bool.false_ne_true, floor_whole]
  omega

variable {p : Nat}

theorem two_pow_le (small : p < 53) : Nat.pow 2 p ≤ Nat.pow 2 53 :=
  Nat.pow_le_pow_right (by decide) (Nat.le_of_lt small)

theorem exceeds_of_large (small : p < 53) {units : Nat}
    (large : Nat.pow 2 (p + 1) * unitsPerOne ≤ units) :
    exceeds (ofRatio false units 1) (ofNat (Nat.pow 2 p)) = true := by
  rw [ofNat_natural (two_pow_le small)]
  cases rounded : ofRatio? units 1 with
  | none => rw [ofRatio, rounded]; rfl
  | some a =>
    rw [ofRatio_of_some rounded, exceeds_finite, signedUnits_natural, decide_eq_true_iff, signedUnits,
      if_neg Bool.false_ne_true]
    have above := two_pow_mul_unitsPerOne_le_roundUnits large
    rw [ofRatio?_eq_some_iff.1 rounded] at above
    have below : Nat.pow 2 p * unitsPerOne < Nat.pow 2 (p + 1) * unitsPerOne :=
      Nat.mul_lt_mul_of_pos_right (Nat.pow_lt_pow_right (by decide) (by omega)) unitsPerOne_pos
    exact_mod_cast Nat.lt_of_lt_of_le below above

theorem exceeds_ofRatio (small : p < 53) (n : Nat) :
    exceeds (ofRatio false (n * unitsPerOne) 1) (ofNat (Nat.pow 2 p)) =
      decide (Nat.pow 2 p < n) := by
  by_cases exact : n ≤ Nat.pow 2 53
  · rw [ofRatio_natural false exact, ofNat_natural (two_pow_le small), exceeds_finite,
      signedUnits_natural, signedUnits_natural]
    simp only [mul_unitsPerOne_lt_iff, Int.ofNat_lt]
  · have above : Nat.pow 2 (p + 1) ≤ n :=
      Nat.le_trans (Nat.pow_le_pow_right (by decide) (by omega)) (Nat.le_of_not_le exact)
    rw [exceeds_of_large small (Nat.mul_le_mul_right _ above), eq_comm, decide_eq_true_iff]
    exact Nat.lt_of_lt_of_le (Nat.pow_lt_pow_right (by decide) (by omega)) above

theorem ofNat_large {n : Nat} (large : Nat.pow 2 53 ≤ n) :
    ofNat n = infinite false ∨
      ∃ a, ofNat n = finite false a ∧ Nat.pow 2 53 * unitsPerOne ≤ a.units := by
  have rounding := congrFun ofNat_eq_ofRatio n
  cases rounded : ofRatio? (n * unitsPerOne) 1 with
  | none =>
    left
    rw [rounding, ofRatio, rounded, Option.map_none, Option.getD_none]
  | some a =>
    refine .inr ⟨a, ?_, ?_⟩
    · rw [rounding, ofRatio_of_some rounded]
    · rw [← ofRatio?_eq_some_iff.1 rounded]
      exact two_pow_mul_unitsPerOne_le_roundUnits (Nat.mul_le_mul_right _ large)

theorem atMost_ofNat_large {n : Nat} (large : Nat.pow 2 53 ≤ n) :
    atMost (infinite true) (ofNat n) = true := by
  rcases ofNat_large large with infinite | ⟨b, rounded, -⟩
  · rw [infinite]
    rfl
  · rw [rounded]
    rfl

theorem lt_floor_of_atMost_eq_false {n : Nat} (large : Nat.pow 2 53 ≤ n) {negative : Bool}
    {a : Magnitude} (beyond : atMost (finite negative a.whole) (ofNat n) = false) :
    negative = false ∧ Nat.pow 2 53 < a.floor := by
  rcases ofNat_large large with infinite | ⟨b, rounded, units⟩
  · rw [infinite] at beyond
    cases beyond
  · rw [rounded, atMost_finite, decide_eq_false_iff_not, Int.not_le, signedUnits_whole, signedUnits,
      if_neg Bool.false_ne_true] at beyond
    have above : (Nat.pow 2 53 : Int) * unitsPerOne ≤ b.units := by exact_mod_cast units
    have order := mul_unitsPerOne_lt_iff.1 (Int.lt_of_le_of_lt above beyond)
    cases negative with
    | true =>
      simp only [↓reduceIte] at order
      have positive : 0 < Nat.pow 2 53 := Nat.two_pow_pos 53
      omega
    | false =>
      simp only [Bool.false_eq_true, ↓reduceIte] at order
      exact ⟨rfl, Int.ofNat_lt.1 order⟩

theorem exceeds_zero (small : p < 53) (negative : Bool) :
    exceeds (ofRatio negative (0 * unitsPerOne) 1) (ofNat (Nat.pow 2 p)) = false := by
  have zero : signedUnits negative (natural 0 (Nat.zero_le _)) = 0 := by
    simp [signedUnits, units_natural]
  rw [ofRatio_natural negative (Nat.zero_le _), ofNat_natural (two_pow_le small), exceeds_finite,
    signedUnits_natural, zero, decide_eq_false_iff_not, Int.not_lt]
  exact Int.mul_nonneg (Int.natCast_nonneg _) (Int.natCast_nonneg _)

/-- No copies of a text exceed any bound, however long the text is. -/
theorem exceeds_product_zero (small : p < 53) (negative : Bool) {a : Magnitude}
    (none : a.floor = 0) (n : Nat) :
    exceeds (product (finite negative a.whole) (ofNat n)) (ofNat (Nat.pow 2 p)) = false := by
  have zero : a.whole.units = 0 := by rw [units_whole, none, Nat.zero_mul]
  have finite_zero (b : Magnitude) :
      exceeds (product (finite negative a.whole) (finite false b)) (ofNat (Nat.pow 2 p)) =
        false := by
    rw [product_whole (units_whole a), none, Nat.zero_mul, ← Nat.zero_mul unitsPerOne]
    exact exceeds_zero small _
  by_cases exact : n ≤ Nat.pow 2 53
  · rw [ofNat_natural exact]
    exact finite_zero _
  · rcases ofNat_large (Nat.le_of_not_le exact) with infinite | ⟨b, rounded, -⟩
    · rw [infinite, product, if_pos zero]
      rfl
    · rw [rounded]
      exact finite_zero b

/-- A rounded product of whole numbers is above a power of two when the product itself is. -/
theorem exceeds_product (small : p < 53) (a : Magnitude) (n : Nat) :
    exceeds (product (finite false a.whole) (ofNat n)) (ofNat (Nat.pow 2 p)) =
      decide (Nat.pow 2 p < a.floor * n) := by
  by_cases none : a.floor = 0
  · rw [exceeds_product_zero small false none, none, Nat.zero_mul, eq_comm, decide_eq_false_iff_not]
    exact Nat.not_lt_zero _
  by_cases exact : n ≤ Nat.pow 2 53
  · rw [ofNat_natural exact, product_whole (units_whole a), units_natural, ← Nat.mul_assoc]
    exact exceeds_ofRatio small _
  have large : Nat.pow 2 53 ≤ n := Nat.le_of_not_le exact
  have power : Nat.pow 2 (p + 1) ≤ Nat.pow 2 53 := Nat.pow_le_pow_right (by decide) (by omega)
  have above : Nat.pow 2 p < a.floor * n :=
    calc Nat.pow 2 p < Nat.pow 2 (p + 1) := Nat.pow_lt_pow_right (by decide) (by omega)
      _ ≤ n := Nat.le_trans power large
      _ ≤ a.floor * n := Nat.le_mul_of_pos_left n (Nat.pos_of_ne_zero none)
  rw [decide_eq_true above]
  rcases ofNat_large large with infinite | ⟨b, rounded, units⟩
  · have some : a.whole.units ≠ 0 := by
      rw [units_whole]
      exact Nat.mul_ne_zero none (Nat.ne_of_gt unitsPerOne_pos)
    rw [infinite, product, if_neg some, ofNat_natural (two_pow_le small)]
    rfl
  · rw [rounded, product_whole (units_whole a)]
    apply exceeds_of_large small
    calc Nat.pow 2 (p + 1) * unitsPerOne
        ≤ Nat.pow 2 53 * unitsPerOne := Nat.mul_le_mul_right _ power
      _ ≤ b.units := units
      _ ≤ a.floor * b.units := Nat.le_mul_of_pos_left _ (Nat.pos_of_ne_zero none)

theorem exceeds_product_infinite (small : p < 53) {n : Nat} (positive : 0 < n)
    (exact : n ≤ Nat.pow 2 53) :
    exceeds (product (infinite false) (ofNat n)) (ofNat (Nat.pow 2 p)) = true := by
  have some : (natural n exact).units ≠ 0 := by
    rw [units_natural]
    exact Nat.ne_of_gt (Nat.mul_pos positive unitsPerOne_pos)
  rw [ofNat_natural exact, ofNat_natural (two_pow_le small), product, if_neg some]
  rfl

end Number
end PageExtract
